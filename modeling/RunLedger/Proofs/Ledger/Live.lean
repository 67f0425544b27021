import RunLedger.Proofs.Ledger.Demands
import RunLedger.Proofs.Ledger.Holding
import RunLedger.Proofs.Log.Walking

/-!
# Live messages and the log

A watch that has read a log goes on with what is published, and reads the log again when it has fallen behind. A message
that is published comes with the place behind its record, and the watch takes that place over as its cursor.

* `catchUp_of_read`: to catch up is to read on from the cursor, though `catchUp` reads only the octets behind it.
* `marks_of_broadcast`: a record that is published is in the log, and its place is behind it (`Persisted.Marks`).
* `Watch.Follows.poll`: what a watch has handed out are the records in front of its cursor, whichever way it gets on.
* `InStep.meet`: every demand keeps watches in step with what is published and with the log. What a demand does to a
  watch is said once, in `comes_of_meet`.

The main theorem is `live_cursor_eq_read_cursor`.
-/

namespace RunLedger.Ledger

/-! ## Catching up -/

/-- **To catch up is to read on from the cursor.** -/
theorem catchUp_of_read {d : Disk} {path : String} {log : Bytes} (hread : d.read path = .ok log)
    (hsize : log.length < UInt64.size) (c : Cursor) :
    catchUp d path c = .ok ((c.read log).1.messages, (c.read log).2) := by
  simp only [catchUp, hread, Cursor.read, Nat.zero_le, if_true, List.drop_zero]
  by_cases hle : c.offset ≤ log.length
  · have hend : c.offset + 0 + (log.drop c.offset).length ≤ maxPosition := by
      simp only [List.length_drop, maxPosition]
      omega
    have hshift : c.readOnto [] (log.drop c.offset) = _ := Cursor.readOnto_shift c.offset ⟨c.record, 0⟩ [] hend
    rw [if_pos hle, hshift]
  · rw [if_neg hle, List.drop_eq_nil_of_le (by omega), Cursor.readOnto_of_error Frame.decode_nil]
    rfl

/-- Whoever catches up has read on, and a log that is not there is read like an empty one. -/
theorem read_of_catchUp {d : Disk} {path : String} (hsize : (d.octets path).length < UInt64.size) {c c' : Cursor}
    {ms : List Message} (h : catchUp d path c = .ok (ms, c')) :
    (c.read (d.octets path)).1.messages = ms ∧ (c.read (d.octets path)).2 = c' := by
  cases hread : d.read path with
  | ok log =>
    rw [Disk.octets_of_read hread] at hsize ⊢
    rw [catchUp_of_read hread hsize] at h
    exact Prod.mk.inj (Except.ok.inj h)
  | error e =>
    have hoctets : d.octets path = [] := by
      rw [Disk.octets_eq_getD, hread]
      rfl
    have hnothing : c.read [] = (⟨[], none⟩, c) := by
      rw [Cursor.read, List.drop_nil, Cursor.readOnto_of_error Frame.decode_nil]
      split <;> rfl
    rw [hoctets, hnothing]
    simp only [catchUp, hread] at h
    split at h
    · exact Prod.mk.inj (Except.ok.inj h)
    · cases h
    · rename_i he
      cases he

/-! ## What is published -/

/-- The records that a batch becomes are published with the places behind them. -/
def broadcast (l : Ledger) (run : RunId) (batch : List Message) : List Persisted :=
  match ((l.hold run).1.append l.disk l.config run l.suppliedPreamble batch).1 with
  | .ok (_, records) => records
  | .error _ => []

/-- The records of a run that are published when a demand is met. -/
def publishes (l : Ledger) (run : RunId) : Demand → List Persisted
  | .request (.dispatch run' batch) => if run' = run then l.broadcast run' batch else []
  | _ => []

/-- The records of a run that are published while demands are met. -/
def published (l : Ledger) (run : RunId) : List Demand → List Persisted
  | [] => []
  | d :: ds => l.publishes run d ++ (l.meet d).published run ds

/-- The messages that a watch hands out when a demand is met. -/
def handsOut (l : Ledger) (number : Nat) : Demand → List Message
  | .request r => handed number [(r, (l.serve r).1)]
  | .upload _ => []

/-- The messages that a watch hands out while demands are met. -/
def handedOut (l : Ledger) (number : Nat) : List Demand → List Message
  | [] => []
  | d :: ds => l.handsOut number d ++ (l.meet d).handedOut number ds

theorem published_concat (l : Ledger) (run : RunId) (ds : List Demand) (d : Demand) :
    l.published run (ds ++ [d]) = l.published run ds ++ (l.meeting ds).publishes run d := by
  induction ds generalizing l with
  | nil => exact List.append_nil _
  | cons d' ds ih => rw [List.cons_append, published, ih, published, List.append_assoc]; rfl

theorem handedOut_concat (l : Ledger) (number : Nat) (ds : List Demand) (d : Demand) :
    l.handedOut number (ds ++ [d]) = l.handedOut number ds ++ (l.meeting ds).handsOut number d := by
  induction ds generalizing l with
  | nil => exact List.append_nil _
  | cons d' ds ih => rw [List.cons_append, handedOut, ih, handedOut, List.append_assoc]; rfl

/-- A dispatch publishes to those who watch the run. -/
theorem watches_dispatch (l : Ledger) (run : RunId) (batch : List Message) : (l.dispatch run batch).2.watches =
    l.watches.map (·.map fun w =>
      if w.run = run then { w with feed := (l.broadcast run batch).foldl Feed.push w.feed } else w) := by
  have hs : (l.hold run).2.suppliedPreamble = l.suppliedPreamble := by simp [suppliedPreamble]
  unfold broadcast
  cases hdone : (l.hold run).1.append l.disk l.config run l.suppliedPreamble batch with
  | mk result rest =>
    cases result with
    | error e => simp [dispatch, hs, hdone]
    | ok done => simp [dispatch, hs, hdone, mapFeeds]

/-! ## Places behind records -/

/-- The place that comes with a record is the place behind it in the log, and the record has its number there. -/
def Persisted.Marks (p : Persisted) (log : Bytes) : Prop :=
  ∃ front, (Cursor.mk (p.record + 1) p.stop).Behind log (front ++ [p.message])

/-- **Each record that comes behind a whole log comes with its place.** -/
theorem marks_of_placed {log : Bytes} {ms new : List Message} {p : Persisted} (hw : Whole log ms)
    (hfit : ∀ m ∈ new, Frame.Fits m) (hp : p ∈ placed ms.length log.length new) : p.Marks (log ++ framed new) := by
  obtain ⟨xs, ys, hs⟩ := List.append_of_mem hp
  obtain ⟨front, m, rest, rfl, -, -, rfl⟩ := placed_eq_append_cons hs
  have hcons : front ++ m :: rest = front ++ [m] ++ rest := by rw [List.append_assoc, List.singleton_append]
  have hlog : log ++ framed (front ++ m :: rest) = log ++ framed (front ++ [m]) ++ framed rest := by
    rw [hcons, framed_append, List.append_assoc]
  have hfront : Whole (log ++ framed (front ++ [m])) (ms ++ (front ++ [m])) :=
    hw.append (whole_framed fun x hx => hfit x (hcons ▸ List.mem_append_left _ hx))
  refine ⟨ms ++ front, ?_, ?_, ?_⟩
  · rw [hlog, List.length_append, List.length_append]
    exact Nat.le_add_right _ _
  · show Whole ((log ++ framed (front ++ m :: rest)).take (log.length + (framed (front ++ [m])).length))
      (ms ++ front ++ [m])
    rw [hlog, ← List.length_append, List.take_left, List.append_assoc]
    exact hfront
  · simp only [List.length_append, List.length_singleton]

/-- What an append publishes are the records that came behind the intact octets of the log. -/
theorem RunLog.append_placed {log log' : RunLog} {d d' : Disk} {c : Config} {run : RunId} {supplied : Message}
    {batch : List Message} {ack : Ack} {records : List Persisted} (hs : d.Sound)
    (hr : Recoverable (d.octets (c.logPath run))) (hlog : log.Right d (c.logPath run))
    (h : log.append d c run supplied batch = (.ok (ack, records), log', d')) :
    ∃ new, (∀ m ∈ new, Frame.Fits m) ∧
      records = placed (readAll (d.octets (c.logPath run))).messages.length
        (intact (d.octets (c.logPath run))).length new ∧
      d'.octets (c.logPath run) = intact (d.octets (c.logPath run)) ++ framed new := by
  have he : d.names.get? (c.logPath run) ≠ some .directory := by
    intro he
    have htail : log.tail = none := by
      cases ht : log.tail with
      | none => rfl
      | some t => exact absurd he (hlog t ht).1.entry
    have hread : d.read (c.logPath run) = .error .isDirectory := by rw [Disk.read_eq, he]
    simp only [append, findTail, htail, Tail.restore, hread] at h
    cases h
  obtain ⟨t, d₁, hfind, hfound⟩ := findTail_of_right hs he hr hlog
  cases hrefusal : refusal? c run (readAll (d.octets (c.logPath run))).messages.length supplied batch with
  | some e =>
    have hrefused := Tail.append_of_refused (d := d₁) (by rw [hfound.knows.records_eq]; exact hrefusal)
    simp only [append, hfind, hrefused] at h
    cases h
  | none =>
    obtain ⟨t', d₂, ha, hgrown⟩ := Tail.append_of_not_refused hfound.sound hfound.holds hfound.knows hrefusal
    simp only [append, hfind, ha] at h
    cases h
    rw [hfound.octets_eq]
    exact ⟨_, hgrown.fits, rfl, by rw [hgrown.octets_eq, hfound.octets_eq]⟩

section

variable {l : Ledger} {run : RunId}

/-- **A record that is published is in the log, and its place is behind it.** -/
theorem marks_of_broadcast (h : l.Informed) {batch : List Message} {p : Persisted} (hp : p ∈ l.broadcast run batch) :
    p.Marks ((l.dispatch run batch).2.octets run) := by
  have hlog : (l.hold run).1.Right l.disk (l.config.logPath run) := by
    have hheld := ((kept_hold l run).informed h).right (l.hold_self run).1
    rwa [disk_hold, config_hold] at hheld
  obtain ⟨-, hc, hd, -⟩ := l.dispatch_fields run batch
  unfold broadcast at hp
  cases hdone : (l.hold run).1.append l.disk l.config run l.suppliedPreamble batch with
  | mk result rest =>
    rw [hdone] at hp
    cases result with
    | error e => cases hp
    | ok done =>
      obtain ⟨new, hfit, hrecords, hoctets⟩ := RunLog.append_placed h.sound (h.recoverable run) hlog hdone
      rw [hdone] at hd
      rw [octets, hc, hd, hoctets]
      have hp : p ∈ done.2 := hp
      rw [hrecords] at hp
      exact marks_of_placed (h.recoverable run) hfit hp

/-- A log is left as it is, or frames of messages come behind its intact octets. -/
theorem octets_meet (h : l.Informed) {d : Demand} (hd : d.Rooted l.config.root) (run : RunId) :
    (l.meet d).octets run = l.octets run ∨
      ∃ new, (∀ m ∈ new, Frame.Fits m) ∧ (l.meet d).octets run = intact (l.octets run) ++ framed new := by
  by_cases hn : ∃ batch, d = .request (.dispatch run batch)
  · right
    obtain ⟨batch, rfl⟩ := hn
    have hoctets : (l.meet (.request (.dispatch run batch))).octets run =
        (appendTo l.config run l.suppliedPreamble batch (l.file run)).2.toOption.getD [] := by
      rw [octets_eq_getD, ← (dispatch_appendTo h run batch).2.file_eq]
      rfl
    rw [hoctets, octets_eq_getD]
    by_cases hack : ∃ ack, (appendTo l.config run l.suppliedPreamble batch (l.file run)).1 = .ok ack ∧ batch ≠ []
    · obtain ⟨ack, hack, hne⟩ := hack
      obtain ⟨hfit, hfile⟩ := appendTo_of_acknowledged hack hne
      exact ⟨_, hfit, by rw [hfile]; rfl⟩
    · refine ⟨[], nofun, ?_⟩
      have hempty ack (ha : (appendTo l.config run l.suppliedPreamble batch (l.file run)).1 = .ok ack) : batch = [] :=
        by_contra fun hne => hack ⟨ack, ha, hne⟩
      rw [appendTo_of_unacknowledged hempty, framed_nil, List.append_nil]
      cases l.file run with
      | ok log => rfl
      | error e => exact (intact_of_whole .nil).symm
  · left
    rw [octets_eq_getD, octets_eq_getD, file_meet h hd fun batch hb => hn ⟨batch, hb⟩]

end

/-! ## Watches -/

/-- What a watch of a log has handed out, and what it has ready, are the records in front of its cursor; what waits in
its feed was published. -/
structure Watch.Follows (w : Watch) (log : Bytes) (sent : List Persisted) (given : List Message) : Prop where
  behind : w.cursor.Behind log (given ++ w.ready)
  waiting : ∀ p ∈ w.feed.waiting, p ∈ sent

/-- A watch that was asked is over, or follows the log on, behind the message that it said. -/
def Watch.FollowsOn (log : Bytes) (sent : List Persisted) (given : List Message) : Poll × Option Watch → Prop
  | (_, none) => True
  | (.message m, some v) => v.Follows log sent (given ++ [m])
  | (_, some v) => v.Follows log sent given

namespace Watch

variable {w : Watch} {d : Disk} {log : Bytes} {sent : List Persisted} {given : List Message}

/-- A watch that reads on has ready what it has read. -/
theorem Follows.readOn (h : w.Follows log sent given) (hr : w.ready = []) (hsize : log.length < UInt64.size) : Follows
    { w with cursor := (w.cursor.read log).2, behind := false, ready := (w.cursor.read log).1.messages } log sent
    given := by
  have hbehind := h.behind
  rw [hr, List.append_nil] at hbehind
  exact ⟨hbehind.read hsize, h.waiting⟩

/-- A message that is ready is handed out. -/
theorem Follows.hand {m : Message} {rest : List Message} (h : w.Follows log sent given) (hr : w.ready = m :: rest) :
    Follows { w with ready := rest } log sent (given ++ [m]) := by
  have hbehind := h.behind
  rw [hr, List.append_cons] at hbehind
  exact ⟨hbehind, h.waiting⟩

/-- What is received was published, and so was what waits behind it. -/
theorem Follows.received {p : Persisted} {feed : Feed} (h : w.Follows log sent given)
    (he : w.feed.receive = (.message p, feed)) : p ∈ sent ∧ ∀ q ∈ feed.waiting, q ∈ sent := by
  obtain ⟨-, hwaiting, -⟩ := Feed.receive_message he
  exact ⟨h.waiting p (hwaiting ▸ List.mem_cons_self), fun q hq => h.waiting q (hwaiting ▸ List.mem_cons_of_mem _ hq)⟩

/-- **A live message is the record in front of the cursor.** -/
theorem Follows.takeNext {p : Persisted} {feed : Feed} (h : w.Follows log sent given) (hr : w.ready = [])
    (hp : p.Marks log) (hrecord : p.record = w.cursor.record) (hfeed : ∀ q ∈ feed.waiting, q ∈ sent) :
    Follows { w with feed := feed, cursor := ⟨p.record + 1, p.stop⟩ } log sent (given ++ [p.message]) := by
  obtain ⟨front, hfront⟩ := hp
  have hbehind := h.behind
  rw [hr, List.append_nil] at hbehind
  -- the records in front of the live one are those that were handed out
  have hlength : given.length = front.length := by
    have hplace := hfront.record_eq
    rw [List.length_append, List.length_singleton] at hplace
    rw [← hbehind.record_eq, ← hrecord]
    exact Nat.add_right_cancel hplace
  obtain ⟨new, hnew⟩ := hbehind.front_of_le hfront (by rw [← hrecord]; exact Nat.le_succ _)
  obtain ⟨rfl, -⟩ := List.append_inj hnew hlength
  refine ⟨?_, hfeed⟩
  show (Cursor.mk (p.record + 1) p.stop).Behind log (given ++ [p.message] ++ w.ready)
  rwa [hr, List.append_nil]

theorem FollowsOn.follows {r : Poll × Option Watch} {v : Watch} (h : FollowsOn log sent given r) (hr : r.2 = some v)
    (number : Nat) : v.Follows log sent (given ++ handed number [(.poll number, .said r.1)]) := by
  obtain ⟨said, o⟩ := r
  cases hr
  cases said with
  | message m =>
    rw [handed_message]
    exact h
  | _ =>
    rw [handed_eq_nil (by simp), List.append_nil]
    exact h

/-- **A watch that is asked follows the log on,** whether it takes what is published or reads the log again. -/
theorem Follows.poll (hlog : d.octets w.path = log) (hsize : log.length < UInt64.size)
    (hsent : ∀ p ∈ sent, p.Marks log) (h : w.Follows log sent given) : FollowsOn log sent given (w.poll d) := by
  fun_induction Watch.poll d w with
  | case1 w m rest hr => exact h.hand hr
  | case2 w hr hb e he => exact ⟨h.behind, h.waiting⟩
  | case3 w hr hb cursor he ih =>
    obtain ⟨hmessages, hcursor⟩ := read_of_catchUp (hlog ▸ hsize) he
    have hon := h.readOn hr hsize
    rw [← hlog, hmessages, hcursor, ← hr] at hon
    exact ih hlog (hlog ▸ hon)
  | case4 w hr hb m rest cursor he =>
    obtain ⟨hmessages, hcursor⟩ := read_of_catchUp (hlog ▸ hsize) he
    have hon := h.readOn hr hsize
    rw [← hlog, hmessages, hcursor] at hon
    exact hlog ▸ hon.hand rfl
  | case5 w hr hb hc => trivial
  | case6 w hr hb hc feed he ih =>
    obtain rfl := Feed.receive_missed he
    exact ih hlog ⟨h.behind, h.waiting⟩
  | case7 w hr hb hc p feed he hlt ih =>
    exact ih hlog ⟨h.behind, (h.received he).2⟩
  | case8 w hr hb hc p feed he hlt heq =>
    obtain ⟨hp, hrest⟩ := h.received he
    exact h.takeNext hr (hsent p hp) heq hrest
  | case9 w hr hb hc p feed he hlt hne ih =>
    exact ih hlog ⟨h.behind, (h.received he).2⟩
  | case10 w hr hb hc feed he ih => exact ih hlog ⟨h.behind, h.waiting⟩
  | case11 w hr hb hc feed he => exact h

end Watch

/-! ## What a demand does to watches -/

theorem Feed.mem_of_mem_foldl_push {f : Feed} {ps : List Persisted} {q : Persisted}
    (h : q ∈ (ps.foldl Feed.push f).waiting) : q ∈ f.waiting ++ ps := by
  induction ps generalizing f with
  | nil => rwa [List.append_nil]
  | cons p ps ih =>
    rcases List.mem_append.mp (ih h) with h | h
    · rw [List.append_cons]
      exact List.mem_append_left _ (mem_of_mem_push h)
    · exact List.mem_append_right _ (List.mem_cons_of_mem _ h)

/-- The watch is as the other one, but for what was published to it. -/
structure Watch.Waits (v w : Watch) (new : List Persisted) : Prop where
  run_eq : v.run = w.run
  path_eq : v.path = w.path
  cursor_eq : v.cursor = w.cursor
  ready_eq : v.ready = w.ready
  waiting : ∀ p ∈ v.feed.waiting, p ∈ w.feed.waiting ++ new

theorem Watch.Waits.refl (w : Watch) (new : List Persisted) : w.Waits w new :=
  ⟨rfl, rfl, rfl, rfl, fun _ => List.mem_append_left new⟩

theorem Watch.Follows.of_waits {v w : Watch} {log : Bytes} {sent new : List Persisted} {given : List Message}
    (h : w.Follows log sent given) (hv : v.Waits w new) : v.Follows log (sent ++ new) given := by
  refine ⟨?_, fun p hp => ?_⟩
  · rw [hv.cursor_eq, hv.ready_eq]
    exact h.behind
  · rcases List.mem_append.mp (hv.waiting p hp) with hp | hp
    · exact List.mem_append_left _ (h.waiting p hp)
    · exact List.mem_append_right _ hp

section

variable {l : Ledger} {run : RunId} {number : Nat} {d : Demand} {v : Watch}

theorem exists_of_map {watches : List (Option Watch)} {f : Watch → Watch}
    (h : (watches.map (·.map f))[number]? = some (some v)) : ∃ w, watches[number]? = some (some w) ∧ f w = v := by
  rw [List.getElem?_map] at h
  obtain ⟨o, ho, hv⟩ := Option.map_eq_some_iff.mp h
  obtain ⟨w, rfl, hw⟩ := Option.map_eq_some_iff.mp hv
  exact ⟨w, ho, hw⟩

theorem watches_upload (l : Ledger) (chunks : List UploadChunk) : (l.upload chunks).2.watches = l.watches := by
  unfold upload
  split
  · rfl
  · dsimp only
    split <;> rfl

/-- How a watch came to be as it is after a demand: it was there and was not asked, it was asked, or it begins. -/
inductive Comes (l : Ledger) (d : Demand) (number : Nat) (v : Watch) : Prop
  | waits (w : Watch) : l.watches[number]? = some (some w) → v.Waits w (l.publishes w.run d) →
    l.handsOut number d = [] → Comes l d number v
  | asked (w : Watch) : l.watches[number]? = some (some w) → (w.poll l.disk).2 = some v →
    l.handsOut number d = handed number [(.poll number, .said (w.poll l.disk).1)] → Comes l d number v
  | begins : number = l.watches.length → v.path = l.config.logPath v.run → v.cursor = .start → v.ready = [] →
    v.feed.waiting = [] → l.handsOut number d = [] → Comes l d number v

theorem handsOut_of_not_poll {r : Request} (h : r ≠ .poll number) : l.handsOut number (.request r) = [] :=
  handed_eq_nil fun hr => absurd hr h

theorem comes_of_dispatch {batch : List Message}
    (hv : (l.dispatch run batch).2.watches[number]? = some (some v)) :
    l.Comes (.request (.dispatch run batch)) number v := by
  rw [watches_dispatch] at hv
  obtain ⟨w, hw, rfl⟩ := exists_of_map hv
  refine .waits w hw ?_ (handsOut_of_not_poll (by simp))
  by_cases hr : w.run = run
  · rw [if_pos hr, publishes, if_pos hr.symm]
    exact ⟨rfl, rfl, rfl, rfl, fun p => Feed.mem_of_mem_foldl_push⟩
  · rw [if_neg hr]
    exact .refl w _

theorem comes_of_watch (hv : (l.watch run).2.watches[number]? = some (some v)) :
    l.Comes (.request (.watch run)) number v := by
  have hnone : l.handsOut number (.request (.watch run)) = [] := handsOut_of_not_poll (by simp)
  rcases l.watch_cases run with hw | hw <;> rw [hw] at hv
  · exact .waits v hv (.refl v _) hnone
  · rcases Nat.lt_or_ge number l.watches.length with hlt | hge
    · rw [List.getElem?_append_left hlt] at hv
      exact .waits v hv (.refl v _) hnone
    · have hlast : number = l.watches.length := by
        have hlt := (List.getElem?_eq_some_iff.mp hv).1
        rw [List.length_append, List.length_singleton] at hlt
        omega
      rw [hlast, List.getElem?_concat_length, Option.some.injEq, Option.some.injEq] at hv
      subst hv
      exact .begins hlast (by rw [Watch.new]) rfl rfl rfl hnone

/-- A watch that is asked is the one that it leaves; all others stay. -/
theorem comes_of_next {asked : Nat} (hv : (l.next asked).2.watches[number]? = some (some v)) :
    l.Comes (.request (.poll asked)) number v := by
  by_cases hasked : asked = number
  · subst hasked
    cases hw : l.watches[asked]?.join with
    | none =>
      simp only [next, hw] at hv
      rw [hv] at hw
      cases hw
    | some w =>
      have hthere := Option.join_eq_some_iff.mp hw
      have hnext : l.next asked =
          ((w.poll l.disk).1, { l with watches := l.watches.set asked (w.poll l.disk).2 }) := by
        simp only [next, hw]
      rw [hnext, List.getElem?_set_self (List.getElem?_eq_some_iff.mp hthere).1] at hv
      refine .asked w hthere (Option.some.inj hv) ?_
      show handed asked [(.poll asked, .said (l.next asked).1)] = _
      rw [hnext]
  · have hnone : l.handsOut number (.request (.poll asked)) = [] :=
      handsOut_of_not_poll fun he => hasked (Request.poll.inj he)
    rcases l.next_cases asked with hn | ⟨w, -, hn⟩ <;> rw [hn] at hv
    · exact .waits v hv (.refl v _) hnone
    · rw [List.getElem?_set_ne hasked] at hv
      exact .waits v hv (.refl v _) hnone

theorem comes_of_close (hv : (l.close run).2.watches[number]? = some (some v)) :
    l.Comes (.request (.close run)) number v := by
  have hnone : l.handsOut number (.request (.close run)) = [] := handsOut_of_not_poll (by simp)
  rcases l.close_cases run with hc | ⟨log, -, -, hc⟩ <;> rw [hc] at hv
  · exact .waits v hv (.refl v _) hnone
  · obtain ⟨w, hw, rfl⟩ := exists_of_map hv
    refine .waits w hw ?_ hnone
    split
    · exact ⟨rfl, rfl, rfl, rfl, fun _ => List.mem_append_left _⟩
    · exact .refl w _

/-- **How a watch came to be as it is.** -/
theorem comes_of_meet (hv : (l.meet d).watches[number]? = some (some v)) : l.Comes d number v := by
  cases d with
  | upload chunks =>
    have hv : (l.upload chunks).2.watches[number]? = some (some v) := hv
    rw [watches_upload] at hv
    exact .waits v hv (.refl v _) rfl
  | request r =>
    cases r with
    | dispatch run batch => exact comes_of_dispatch hv
    | watch run => exact comes_of_watch hv
    | poll asked => exact comes_of_next hv
    | close run => exact comes_of_close hv
    | leave left =>
      have hv : (l.watches.set left none)[number]? = some (some v) := hv
      by_cases hleft : left = number
      · subst hleft
        simp [List.getElem?_set] at hv
      · rw [List.getElem?_set_ne hleft] at hv
        exact .waits v hv (.refl v _) (handsOut_of_not_poll (by simp))
    | restart c =>
      obtain ⟨w, hw, rfl⟩ := exists_of_map hv
      exact .waits w hw ⟨rfl, rfl, rfl, rfl, fun _ => List.mem_append_left _⟩ (handsOut_of_not_poll (by simp))
    | logs run => exact .waits v hv (.refl v _) (handsOut_of_not_poll (by simp))
    | release => exact .waits v hv (.refl v _) (handsOut_of_not_poll (by simp))
    | wait clock => exact .waits v hv (.refl v _) (handsOut_of_not_poll (by simp))

/-- No watch is lost: one that is over keeps its number. -/
theorem length_watches_meet (l : Ledger) (d : Demand) : l.watches.length ≤ (l.meet d).watches.length := by
  cases d with
  | upload chunks => exact Nat.le_of_eq (congrArg List.length (l.watches_upload chunks).symm)
  | request r =>
    cases r with
    | dispatch run batch =>
      show _ ≤ (l.dispatch run batch).2.watches.length
      rw [watches_dispatch, List.length_map]
    | watch run =>
      show _ ≤ (l.watch run).2.watches.length
      rcases l.watch_cases run with hw | hw <;> rw [hw]
      rw [List.length_append]
      exact Nat.le_add_right _ _
    | poll number =>
      show _ ≤ (l.next number).2.watches.length
      rcases l.next_cases number with hn | ⟨w, -, hn⟩ <;> rw [hn]
      rw [List.length_set]
    | close run =>
      show _ ≤ (l.close run).2.watches.length
      rcases l.close_cases run with hc | ⟨log, -, -, hc⟩ <;> rw [hc]
      rw [mapFeeds, List.length_map]
    | leave number => exact Nat.le_of_eq List.length_set.symm
    | restart c => exact Nat.le_of_eq (List.length_map _).symm
    | logs run => exact Nat.le_refl _
    | release => exact Nat.le_refl _
    | wait clock => exact Nat.le_refl _

/-- A watch that was not begun hands out nothing. -/
theorem handsOut_of_le (h : l.watches.length ≤ number) (d : Demand) : l.handsOut number d = [] := by
  cases d with
  | upload chunks => rfl
  | request r =>
    refine handed_eq_nil fun hr m => ?_
    have hnext : l.next number = (.ended, l) := by simp [next, List.getElem?_eq_none h]
    rw [hr, serve, hnext]
    simp [Prod.map]

end

/-! ## Histories -/

/-- The places of the records that were published of a run are the places behind them, and the watches of the run follow
its log, behind what they have handed out. -/
structure InStep (l : Ledger) (run : RunId) (sent : List Persisted) (given : Nat → List Message) : Prop where
  marks : ∀ p ∈ sent, p.Marks (l.octets run)
  follows : ∀ {number : Nat} {w : Watch}, l.watches[number]? = some (some w) → w.run = run →
    w.path = l.config.logPath run ∧ w.Follows (l.octets run) sent (given number)
  fresh : ∀ number, l.watches.length ≤ number → given number = []

section

variable {l : Ledger} {run : RunId} {sent : List Persisted} {given : Nat → List Message} {d : Demand}

/-- A cursor that stands behind records does so whatever is demanded. -/
theorem behind_meet (h : l.Informed) (hd : d.Rooted l.config.root) {c : Cursor} {ms : List Message}
    (hc : c.Behind (l.octets run) ms) : c.Behind ((l.meet d).octets run) ms := by
  rcases octets_meet h hd run with hoctets | ⟨new, -, hoctets⟩
  · rwa [hoctets]
  · rw [hoctets]
    exact hc.intact_append (h.recoverable run) _

theorem marks_of_publishes (h : l.Informed) {p : Persisted} (hp : p ∈ l.publishes run d) :
    p.Marks ((l.meet d).octets run) := by
  unfold publishes at hp
  split at hp
  · split at hp
    · rename_i hr
      subst hr
      exact marks_of_broadcast h hp
    · cases hp
  · cases hp

/-- **Every demand keeps watches in step with what is published and with the log.** -/
theorem InStep.meet (h : l.InStep run sent given) (hi : l.Informed) (hd : d.Rooted l.config.root)
    (hsize : (l.octets run).length < UInt64.size) :
    (l.meet d).InStep run (sent ++ l.publishes run d) fun number => given number ++ l.handsOut number d := by
  have hpath : (l.meet d).config.logPath run = l.config.logPath run :=
    Config.logPath_eq_of_root (informed_meet hi hd).2 run
  have hgrown {w : Watch} {sent : List Persisted} {given : List Message} (hw : w.Follows (l.octets run) sent given) :
      w.Follows ((l.meet d).octets run) sent given := ⟨behind_meet hi hd hw.behind, hw.waiting⟩
  refine ⟨fun p hp => ?_, fun {number v} hv hrun => ?_, fun number hn => ?_⟩
  · rcases List.mem_append.mp hp with hp | hp
    · obtain ⟨front, hfront⟩ := h.marks p hp
      exact ⟨front, behind_meet hi hd hfront⟩
    · exact marks_of_publishes hi hp
  · rw [hpath]
    cases comes_of_meet hv with
    | waits w hw hwaits hnone =>
      have hwrun : w.run = run := hwaits.run_eq.symm.trans hrun
      obtain ⟨hp, hfollows⟩ := h.follows hw hwrun
      rw [hnone, List.append_nil]
      rw [hwrun] at hwaits
      exact ⟨hwaits.path_eq.trans hp, hgrown (hfollows.of_waits hwaits)⟩
    | asked w hw hpoll hsaid =>
      have hlike : v.Resembles w := by
        rcases w.poll_cases l.disk with ⟨-, hover⟩ | ⟨v', hv', hlike⟩
        · rw [hover] at hpoll
          cases hpoll
        · exact Option.some.inj (hv'.symm.trans hpoll) ▸ hlike
      have hwrun : w.run = run := hlike.run_eq.symm.trans hrun
      obtain ⟨hp, hfollows⟩ := h.follows hw hwrun
      have hoctets : l.disk.octets w.path = l.octets run := by
        rw [hp]
        rfl
      have hon := (hfollows.poll hoctets hsize h.marks).follows hpoll number
      rw [hsaid]
      exact ⟨hlike.path_eq.trans hp, hgrown (hon.of_waits (.refl v _))⟩
    | begins hnumber hp hcursor hready hwaiting hnone =>
      rw [h.fresh number (Nat.le_of_eq hnumber.symm), hnone]
      refine ⟨by rw [hp, hrun], ?_, ?_⟩
      · rw [hcursor, hready]
        exact Cursor.behind_start _
      · rw [hwaiting]
        nofun
  · have hle := Nat.le_trans (l.length_watches_meet d) hn
    rw [h.fresh number hle, handsOut_of_le hle, List.append_nil]

theorem inStep_start (config : Config) (disk : Disk) (clock : Clock) (run : RunId) :
    (start config disk clock).InStep run [] fun _ => [] where
  marks _ hp := by cases hp
  follows hw := by cases hw
  fresh _ _ := rfl

/-- A log is as it was at first, or has no damage. -/
theorem octets_meeting (h : l.Informed) {ds : List Demand} (hd : ∀ d ∈ ds, d.Rooted l.config.root) (run : RunId) :
    (l.meeting ds).octets run = l.octets run ∨ ∃ ms, Whole ((l.meeting ds).octets run) ms := by
  induction ds using List.reverseRecOn with
  | nil => exact Or.inl rfl
  | append_singleton ds d ih =>
    have hds : ∀ d ∈ ds, d.Rooted l.config.root := fun d hm => hd d (List.mem_append_left _ hm)
    obtain ⟨hi, hroot⟩ := informed_meeting h hds
    rw [meeting_concat]
    rcases octets_meet hi (hroot.symm ▸ hd d (by simp)) run with hoctets | ⟨new, hfit, hoctets⟩
    · rw [hoctets]
      exact ih hds
    · rw [hoctets]
      exact Or.inr ⟨_, (hi.recoverable run).append (whole_framed hfit)⟩

/-- **Whatever is demanded, watches are in step with what is published and with the log.** -/
theorem inStep_meeting (h : l.Informed) (hl : l.InStep run [] fun _ => []) (hfirst : (l.octets run).length < UInt64.size)
    {ds : List Demand} (hd : ∀ d ∈ ds, d.Rooted l.config.root)
    (hsize : ((l.meeting ds).octets run).length < UInt64.size) :
    (l.meeting ds).InStep run (l.published run ds) fun number => l.handedOut number ds := by
  induction ds using List.reverseRecOn with
  | nil => exact hl
  | append_singleton ds d ih =>
    have hds : ∀ d ∈ ds, d.Rooted l.config.root := fun d hm => hd d (List.mem_append_left _ hm)
    obtain ⟨hi, hroot⟩ := informed_meeting h hds
    have hrooted : d.Rooted (l.meeting ds).config.root := hroot.symm ▸ hd d (by simp)
    rw [meeting_concat] at hsize ⊢
    -- a log that is cut was there at first; others only grow
    have hbefore : ((l.meeting ds).octets run).length < UInt64.size := by
      rcases octets_meet hi hrooted run with hoctets | ⟨new, -, hoctets⟩
      · exact hoctets ▸ hsize
      · rcases octets_meeting h hds run with hsame | ⟨ms, hwhole⟩
        · exact hsame.symm ▸ hfirst
        · rw [hoctets, intact_of_whole hwhole, List.length_append] at hsize
          exact Nat.lt_of_le_of_lt (Nat.le_add_right _ _) hsize
    simpa only [published_concat, handedOut_concat] using (ih hds hbefore).meet hi hrooted hbefore

end

/-- Reading from the start comes to the place of a published record, behind that record. -/
theorem Persisted.Marks.walk {p : Persisted} {log : Bytes} (h : p.Marks log) (hsize : log.length < UInt64.size) :
    ∃ front, Cursor.start.walk log (p.record + 1) = some (front ++ [p.message], ⟨p.record + 1, p.stop⟩) := by
  obtain ⟨front, hfront⟩ := h
  exact ⟨front, hfront.walk hsize⟩

/-- Who catches up from the place of a published record has the messages behind it. -/
theorem Persisted.Marks.catchUp {p : Persisted} {d : Disk} {path : String} (h : p.Marks (d.octets path))
    (hsize : (d.octets path).length < UInt64.size) : Ledger.catchUp d path ⟨p.record + 1, p.stop⟩ =
      .ok ((readAll (d.octets path)).messages.drop (p.record + 1), (Cursor.start.read (d.octets path)).2) := by
  obtain ⟨front, hfront⟩ := h
  have hread : d.read path = .ok (d.octets path) := by
    refine Disk.read_of_ne_nil fun hnil => ?_
    have hrecords := hfront.whole.length_le
    rw [hnil, List.take_nil, List.length_append] at hrecords
    simp at hrecords
  have hall := hfront.read_start hsize
  rw [catchUp_of_read hread hsize, readAll, hall]
  exact congrArg Except.ok (Prod.ext (List.drop_left' hfront.record_eq.symm).symm rfl)

/-- **A live message comes with the cursor that a read would have.** To catch up from a cursor is to read the log from
there, and a read is a walk. At every moment, for each record that was published of a run, a walk through the log from
the start comes behind that record to the place that it was published with, so that who catches up from there is handed
all that follows; and the cursor of a watch is where a walk comes to past the messages that the watch has handed out, and
those that it has ready, however it came by them. -/
theorem live_cursor_eq_read_cursor :
    (∀ (d : Disk) (path : String) (log : Bytes) (c : Cursor), d.read path = .ok log → log.length < UInt64.size →
      catchUp d path c = .ok ((c.read log).1.messages, (c.read log).2) ∧
        c.walk log (c.read log).1.messages.length = some ((c.read log).1.messages, (c.read log).2)) ∧
    ∀ (config : Config) (disk : Disk) (clock : Clock) (ds : List Demand), disk.Sound → disk.Bounded →
      (∀ d ∈ ds, d.Rooted config.root) → ∀ run,
      let l := start config disk clock
      let now := l.meeting ds
      let log := now.octets run
      log.length < UInt64.size →
      (∀ p ∈ l.published run ds,
        (∃ front, Cursor.start.walk log (p.record + 1) = some (front ++ [p.message], ⟨p.record + 1, p.stop⟩)) ∧
        catchUp now.disk (now.config.logPath run) ⟨p.record + 1, p.stop⟩ =
          .ok ((readAll log).messages.drop (p.record + 1), (Cursor.start.read log).2)) ∧
      ∀ number w, now.watches[number]? = some (some w) → w.run = run → w.path = now.config.logPath run ∧
        (∀ p ∈ w.feed.waiting, p ∈ l.published run ds) ∧
        Cursor.start.walk log w.cursor.record = some (l.handedOut number ds ++ w.ready, w.cursor) := by
  refine ⟨fun d path log c hread hsize => ⟨catchUp_of_read hread hsize c, Cursor.walk_read hsize c⟩, ?_⟩
  intro config disk clock ds hs hb hd run l now log hsize
  have hstep := inStep_meeting (informed_of_empty hs hb rfl) (inStep_start config disk clock run)
    (hb.length_octets_lt _) hd hsize
  refine ⟨fun p hp => ?_, fun number w hw hrun => ?_⟩
  · exact ⟨(hstep.marks p hp).walk hsize, (hstep.marks p hp).catchUp hsize⟩
  · obtain ⟨hpath, hfollows⟩ := hstep.follows hw hrun
    exact ⟨hpath, hfollows.waiting, hfollows.behind.walk hsize⟩

/-- A watch that reads two records and takes the third one as it is published. -/
theorem live_cursor_eq_read_cursor_watched :
    let config := Config.rootedAt "d"
    let run : RunId := ⟨.ofNat 1⟩
    let m (n : Nat) : Message := ⟨⟨.ofNat n⟩, ⟨5, 6⟩, .heartbeat⟩
    let p : Message := ⟨⟨.ofNat 9⟩, ⟨5, 6⟩, .preamble ⟨config.schemaVersion, ⟨5, 6⟩, ⟨7, 0⟩⟩⟩
    let poll : Demand := .request (.poll 0)
    let ds : List Demand := [.request (.dispatch run [p, m 1]), .request (.watch run), poll, poll,
      .request (.dispatch run [m 2]), poll]
    let l := start config .empty ⟨⟨0, 0⟩, 0⟩
    let now := l.meeting ds
    let log := framed [p, m 1, m 2]
    let cursor : Cursor := ⟨3, log.length⟩
    Disk.empty.Sound ∧ Disk.empty.Bounded ∧ (∀ d ∈ ds, d.Rooted config.root) ∧ now.octets run = log ∧
      log.length < UInt64.size ∧ ⟨2, log.length, m 2⟩ ∈ l.published run ds ∧ l.handedOut 0 ds = [p, m 1, m 2] ∧
      (∃ front, Cursor.start.walk log 3 = some (front ++ [m 2], cursor)) ∧
      catchUp now.disk (now.config.logPath run) cursor = .ok ([], cursor) ∧
      catchUp now.disk (now.config.logPath run) .start = .ok ([p, m 1, m 2], cursor) ∧
      ∃ w, now.watches[0]? = some (some w) ∧
        Cursor.start.walk log w.cursor.record = some ([p, m 1, m 2] ++ w.ready, w.cursor) := by
  intro config run m p poll ds l now log cursor
  have hb : Disk.empty.Bounded := by decide
  have hd : ∀ d ∈ ds, d.Rooted config.root := by simp [ds, poll, Demand.Rooted]
  let w : Watch := ⟨run, config.logPath run, ⟨1024, [], false, true⟩, cursor, [], false, false⟩
  have hevents : now.octets run = log ∧ now.disk.read (now.config.logPath run) = .ok log ∧
      ⟨2, log.length, m 2⟩ ∈ l.published run ds ∧ l.handedOut 0 ds = [p, m 1, m 2] ∧
      now.watches[0]? = some (some w) := by
    decide +kernel
  obtain ⟨hlog, hfile, hsent, hgiven, hw⟩ := hevents
  have hsize : log.length < UInt64.size := by decide +kernel
  have hspec := live_cursor_eq_read_cursor.2 config .empty ⟨⟨0, 0⟩, 0⟩ ds Disk.sound_empty hb hd run
  have hlt : (now.octets run).length < UInt64.size := by
    rw [hlog]
    exact hsize
  have hpublished := (hspec hlt).1 _ hsent
  have hwalk : ∃ front, Cursor.start.walk (now.octets run) 3 = some (front ++ [m 2], cursor) := hpublished.1
  have hcaught : catchUp now.disk (now.config.logPath run) cursor =
    .ok ((readAll (now.octets run)).messages.drop 3, (Cursor.start.read (now.octets run)).2) := hpublished.2
  have hfit : ∀ x ∈ [p, m 1, m 2], Frame.Fits x := by decide +kernel
  have hall : Cursor.start.read log = (⟨[p, m 1, m 2], none⟩, cursor) := by
    rw [Cursor.read_start_framed hfit, Cursor.skip_start (Nat.le_sub_one_of_lt hsize)]
    rfl
  have hread := (live_cursor_eq_read_cursor.1 now.disk (now.config.logPath run) log .start hfile hsize).1
  rw [hlog] at hwalk hcaught
  rw [readAll, hall] at hcaught
  rw [hall] at hread
  have hwatched : Cursor.start.walk (now.octets run) w.cursor.record = some (l.handedOut 0 ds ++ w.ready, w.cursor) :=
    ((hspec hlt).2 0 w hw rfl).2.2
  rw [hlog, hgiven] at hwatched
  exact ⟨Disk.sound_empty, hb, hd, hlog, hsize, hsent, hgiven, hwalk, hcaught, hread, w, hw, hwatched⟩

end RunLedger.Ledger
