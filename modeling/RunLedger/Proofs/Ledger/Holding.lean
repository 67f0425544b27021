import RunLedger.Proofs.Ledger.Closing
import RunLedger.Proofs.Ledger.Unknown

/-!
# Which runs are held on

The ledger holds the runs that somebody waits for, and lets others go when it holds too many. Who waits for a run is a
matter of the feeds of the watches (`Attached`); which runs are held is a matter of the map of runs (`HeldLive`). The two
are tied by one invariant, `Attentive`: a run that somebody waits for is held, and what is appended to it is published.
It holds whatever the files are and whatever is asked for, since a watch is attached to a run that is held just then, and
no request takes such a run away and leaves the watch attached (`heldLive_serve`).

* `attached_of_serve`, `attached_serve`: how a watch comes to be attached, and how it ceases to be.
* `dispatch_published`: one list of records is published to all that are attached to the run.
* `room_of_new`: when a run comes to be held, there is room for it, or all others are waited for.
* `watched_run_held_on`: all of this for whatever happened before.
-/

namespace RunLedger

/-! ## How many are held -/

theorem OrderedMap.size_set {κ α : Type} [DecidableEq κ] (m : OrderedMap κ α) (k : κ) (v : α) :
    (m.set k v).size = if k ∈ m.keys then m.size else m.size + 1 := by
  have hkeys (m : OrderedMap κ α) : m.size = m.keys.length := (List.length_map _).symm
  rw [hkeys, hkeys, m.keys_set]
  split
  · rfl
  · exact List.length_append

namespace Ledger

/-- Whether a watch waits for what will be published for a run. -/
def Attached (l : Ledger) (number : Nat) (run : RunId) : Prop :=
  ∃ w, l.watches[number]? = some (some w) ∧ w.run = run ∧ w.feed.isOpen

/-- Whether a run is held, and what is appended to its log is published. -/
def HeldLive (l : Ledger) (run : RunId) : Prop := ∃ log, l.runs.get? run = some log ∧ log.live

/-- Every run that somebody waits for is held. -/
def Attentive (l : Ledger) : Prop := ∀ number run, l.Attached number run → l.HeldLive run

/-- Requests after which a watch may wait no more: it is left, or is over, or its run is closed, or the ledger is opened
anew. -/
def Detaches (l : Ledger) (number : Nat) (run : RunId) : Request → Prop
  | .poll number' => number' = number ∧ (l.next number').1 = .ended
  | .leave number' => number' = number
  | .close run' => run' = run
  | .restart _ => True
  | _ => False

/-! ## Watches -/

theorem Watch.Resembles.trans {u v w : Watch} (h : u.Resembles v) (h' : v.Resembles w) : u.Resembles w :=
  ⟨h.run_eq.trans h'.run_eq, h.path_eq.trans h'.path_eq, h.isOpen_eq.trans h'.isOpen_eq⟩

/-- A watch that was asked is over, or goes on like another one. -/
def Watch.GoesOnLike (w : Watch) (r : Poll × Option Watch) : Prop :=
  r.1 = .ended ∧ r.2 = none ∨ ∃ v, r.2 = some v ∧ v.Resembles w

theorem Watch.GoesOnLike.of_resembles {v w : Watch} {r : Poll × Option Watch} (h : v.GoesOnLike r)
    (hv : v.Resembles w) : w.GoesOnLike r := by
  rcases h with hover | ⟨u, hu, hr⟩
  · exact Or.inl hover
  · exact Or.inr ⟨u, hu, hr.trans hv⟩

/-- **A watch that is asked is over, or goes on for the same run,** and waits if it did before. -/
theorem Watch.poll_cases (w : Watch) (d : Disk) : w.GoesOnLike (w.poll d) := by
  fun_induction Watch.poll d w
  case case1 | case2 | case4 | case11 => exact Or.inr ⟨_, rfl, rfl, rfl, rfl⟩
  case case5 => exact Or.inl ⟨rfl, rfl⟩
  case case3 ih | case10 ih => exact ih.of_resembles ⟨rfl, rfl, rfl⟩
  case case6 feed he ih =>
    obtain rfl := Feed.receive_missed he
    exact ih.of_resembles ⟨rfl, rfl, rfl⟩
  case case7 p feed he _ ih | case9 p feed he _ _ ih =>
    exact ih.of_resembles ⟨rfl, rfl, (Feed.receive_message he).2.2.1⟩
  case case8 p feed he _ _ => exact Or.inr ⟨_, rfl, rfl, rfl, (Feed.receive_message he).2.2.1⟩

section

variable {l l' : Ledger} {number number' : Nat} {run run' : RunId}

theorem Attached.lt_length (h : l.Attached number run) : number < l.watches.length := by
  obtain ⟨w, hw, -⟩ := h
  exact (List.getElem?_eq_some_iff.mp hw).1

theorem isWatched_iff : l.isWatched run ↔ ∃ number, l.Attached number run := by
  constructor
  · intro h
    rw [isWatched, List.any_eq_true] at h
    obtain ⟨o, ho, hw⟩ := h
    cases o with
    | none => cases hw
    | some w =>
      simp only [Option.any_some, Bool.and_eq_true, decide_eq_true_eq] at hw
      obtain ⟨number, hnumber⟩ := List.mem_iff_getElem?.mp ho
      exact ⟨number, w, hnumber, hw⟩
  · rintro ⟨number, w, hw, hr, ho⟩
    exact isWatched_of_getElem? hw hr ho

/-- A change to all watches that changes neither their runs nor, for one run, who waits. -/
theorem attached_map {f : Watch → Watch} (hw : l'.watches = l.watches.map (·.map f)) (hrun : ∀ w, (f w).run = w.run)
    (hopen : ∀ w, w.run = run → (f w).feed.isOpen = w.feed.isOpen) :
    l'.Attached number run ↔ l.Attached number run := by
  rw [Attached, Attached, hw, List.getElem?_map]
  constructor
  · rintro ⟨v, hv, hr, ho⟩
    obtain ⟨o, ho', ho''⟩ := Option.map_eq_some_iff.mp hv
    obtain ⟨w, rfl, rfl⟩ := Option.map_eq_some_iff.mp ho''
    rw [hrun] at hr
    rw [hopen w hr] at ho
    exact ⟨w, ho', hr, ho⟩
  · rintro ⟨w, hw', hr, ho⟩
    exact ⟨f w, by rw [hw']; rfl, (hrun w).trans hr, (hopen w hr).trans ho⟩

/-- A watch behind the others leaves them as they are. -/
theorem attached_append {o : Option Watch} (hw : l'.watches = l.watches ++ [o]) (hn : number < l.watches.length) :
    l'.Attached number run ↔ l.Attached number run := by
  rw [Attached, Attached, hw, List.getElem?_append_left hn]

theorem attached_set_ne {o : Option Watch} (hw : l'.watches = l.watches.set number' o) (hn : number' ≠ number) :
    l'.Attached number run ↔ l.Attached number run := by
  rw [Attached, Attached, hw, List.getElem?_set_ne hn]

/-! ## What is published -/

/-- **What is appended to a log is what is published of it:** the batch by consecutive records, and in front of it the
preamble that was supplied, if any. -/
theorem Tail.append_published {t t' : Tail} {d d' : Disk} {c : Config} {supplied : Message} {batch : List Message}
    {ack : Ack} {records : List Persisted} (h : t.append d c run supplied batch = .ok (ack, records, t', d')) :
    records = placed t.records t.bytes (opening t.records supplied batch ++ batch) ∧
      ack = ⟨batch.length, t.records + (opening t.records supplied batch).length⟩ := by
  cases hr : refusal? c run t.records supplied batch with
  | some e =>
    rw [append_of_refused hr] at h
    cases h
  | none =>
    cases batch with
    | nil =>
      cases h
      rw [opening_nil]
      exact ⟨rfl, rfl⟩
    | cons m rest =>
      obtain ⟨ho, hf⟩ := of_not_refused hr
      simp only [append, List.isEmpty_cons, Bool.false_eq_true, if_false, ho, place_eq, hf, Except.mapError, bind,
        Except.bind] at h
      split at h
      · cases h
      · cases h
        rw [List.length_append, Nat.add_sub_cancel]
        exact ⟨rfl, rfl⟩

theorem RunLog.append_published {log log' : RunLog} {d d' : Disk} {c : Config} {supplied : Message}
    {batch : List Message} {ack : Ack} {records : List Persisted}
    (h : log.append d c run supplied batch = (.ok (ack, records), log', d')) :
    ∃ start offset, records = placed start offset (opening start supplied batch ++ batch) ∧
      ack = ⟨batch.length, start + (opening start supplied batch).length⟩ := by
  unfold RunLog.append at h
  split at h
  · cases h
  · rename_i t d₁ _
    split at h
    · cases h
    · rename_i ht
      cases h
      exact ⟨t.records, t.bytes, Tail.append_published ht⟩

/-- A log that is published is published on. -/
theorem RunLog.live_append {log : RunLog} (h : log.live) (d : Disk) (c : Config) (supplied : Message)
    (batch : List Message) : (log.append d c run supplied batch).2.1.live := by
  unfold RunLog.append
  split
  · exact h
  · split
    · exact h
    · simp only [h, Bool.true_or]

/-- **A dispatch publishes one list of records to all watches of its run,** if it is acknowledged, and nothing if not. -/
theorem dispatch_published (l : Ledger) (run : RunId) (batch : List Message) :
    ∃ records, (l.dispatch run batch).2.watches =
        l.watches.map (·.map fun w => if w.run = run then { w with feed := records.foldl Feed.push w.feed } else w) ∧
      (∀ e, (l.dispatch run batch).1 = .error e → records = []) ∧
      ∀ ack, (l.dispatch run batch).1 = .ok ack →
        ∃ start offset, records = placed start offset (opening start l.suppliedPreamble batch ++ batch) ∧
          ack = ⟨batch.length, start + (opening start l.suppliedPreamble batch).length⟩ := by
  have hs : (l.hold run).2.suppliedPreamble = l.suppliedPreamble := by simp [suppliedPreamble]
  cases hdone : (l.hold run).1.append l.disk l.config run l.suppliedPreamble batch with
  | mk result rest =>
    obtain ⟨log, disk⟩ := rest
    cases result with
    | error e =>
      refine ⟨[], ?_, fun _ _ => rfl, fun ack hack => ?_⟩
      · simp [dispatch, hs, hdone]
      · simp [dispatch, hs, hdone] at hack
    | ok done =>
      obtain ⟨ack, records⟩ := done
      refine ⟨records, by simp [dispatch, hs, hdone, mapFeeds], fun e he => ?_, fun ack' hack => ?_⟩
      · simp [dispatch, hs, hdone] at he
      have hacked : ack = ack' := by simpa [dispatch, hs, hdone] using hack
      rw [← hacked]
      exact RunLog.append_published hdone

theorem attached_dispatch (batch : List Message) :
    (l.dispatch run' batch).2.Attached number run ↔ l.Attached number run := by
  obtain ⟨records, hw, -, -⟩ := l.dispatch_published run' batch
  refine attached_map hw (fun w => ?_) fun w _ => ?_ <;> split
  · rfl
  · rfl
  · exact Feed.isOpen_foldl_push _ _
  · rfl

/-! ## One request -/

/-- The run of a watch that begins to wait is held just then. -/
theorem watch_cases (l : Ledger) (run : RunId) : (l.watch run).2 = l ∨
    (l.watch run).2 = { (l.hold run).2 with watches := l.watches ++
      [some (.new run (l.config.logPath run) (.new l.config.watchCapacity (l.hold run).1.live))] } := by
  unfold watch
  split
  · exact Or.inr (by simp)
  · exact Or.inl rfl

theorem next_cases (l : Ledger) (number : Nat) : (l.next number).2 = l ∨
    ∃ w, l.watches[number]? = some (some w) ∧
      (l.next number) = ((w.poll l.disk).1, { l with watches := l.watches.set number (w.poll l.disk).2 }) := by
  unfold next
  split
  · exact Or.inl rfl
  · rename_i w hw
    exact Or.inr ⟨w, Option.join_eq_some_iff.mp hw, rfl⟩

theorem close_cases (l : Ledger) (run : RunId) : (l.close run).2 = l ∨
    ∃ log, l.runs.get? run = some log ∧ log.live ∧
      (l.close run).2 = { l with runs := l.runs.set run { log with live := false } }.mapFeeds run Feed.close := by
  unfold close
  split
  · rename_i log hlog
    split
    · rename_i hlive
      exact Or.inr ⟨log, hlog, hlive, rfl⟩
    · exact Or.inl rfl
  · exact Or.inl rfl

/-- Nobody waits for a run that is closed. -/
theorem not_attached_mapFeeds_close : ¬(l.mapFeeds run Feed.close).Attached number run := by
  rintro ⟨v, hv, hr, ho⟩
  simp only [mapFeeds, List.getElem?_map] at hv
  obtain ⟨o, -, ho'⟩ := Option.map_eq_some_iff.mp hv
  obtain ⟨w, rfl, rfl⟩ := Option.map_eq_some_iff.mp ho'
  by_cases hw : w.run = run
  · rw [if_pos hw] at ho
    cases ho
  · rw [if_neg hw] at hr
    exact hw hr

theorem attached_mapFeeds_ne {f : Feed → Feed} (hr : run ≠ run') :
    (l.mapFeeds run' f).Attached number run ↔ l.Attached number run := by
  refine attached_map rfl (fun w => ?_) fun w hw => ?_
  · split <;> rfl
  · rw [if_neg fun hw' => hr (hw.symm.trans hw')]

/-- Nobody waits when the ledger was opened anew. -/
theorem not_attached_restart (c : Config) : ¬(l.restart c).Attached number run := by
  rintro ⟨v, hv, -, ho⟩
  simp only [restart, List.getElem?_map] at hv
  obtain ⟨o, -, ho'⟩ := Option.map_eq_some_iff.mp hv
  obtain ⟨w, rfl, rfl⟩ := Option.map_eq_some_iff.mp ho'
  cases ho

/-- **A watch that waits waited before, or begins just now,** for a run that is held. -/
theorem attached_of_serve {r : Request} (h : (l.serve r).2.Attached number run) :
    l.Attached number run ∨ number = l.watches.length ∧ (l.serve r).2.HeldLive run := by
  cases r with
  | dispatch run' batch => exact Or.inl ((attached_dispatch batch).mp h)
  | watch run' =>
    have h : (l.watch run').2.Attached number run := h
    show _ ∨ _ ∧ (l.watch run').2.HeldLive run
    rcases l.watch_cases run' with hw | hw <;> rw [hw] at h ⊢
    · exact Or.inl h
    · by_cases hn : number < l.watches.length
      · exact Or.inl ((attached_append rfl hn).mp h)
      · right
        obtain ⟨w, hw', hrun, hopen⟩ := h
        have hlast : number = l.watches.length := by
          have hlt := (List.getElem?_eq_some_iff.mp hw').1
          rw [List.length_append, List.length_singleton] at hlt
          omega
        subst hlast
        rw [List.getElem?_concat_length, Option.some.injEq, Option.some.injEq] at hw'
        subst hw'
        subst hrun
        exact ⟨rfl, _, (l.hold_self run').1, hopen⟩
  | poll number' =>
    left
    have h : (l.next number').2.Attached number run := h
    rcases l.next_cases number' with hn | ⟨w, hw, hn⟩ <;> rw [hn] at h
    · exact h
    · by_cases hnumber : number' = number
      · subst hnumber
        obtain ⟨v, hv, hrun, hopen⟩ := h
        rw [List.getElem?_set_self (List.getElem?_eq_some_iff.mp hw).1, Option.some.injEq] at hv
        rcases w.poll_cases l.disk with ⟨-, hpoll⟩ | ⟨v', hpoll, hv'⟩ <;> rw [hpoll] at hv
        · cases hv
        · cases hv
          exact ⟨w, hw, hv'.run_eq ▸ hrun, hv'.isOpen_eq ▸ hopen⟩
      · exact (attached_set_ne rfl hnumber).mp h
  | leave number' =>
    left
    by_cases hnumber : number' = number
    · subst hnumber
      obtain ⟨v, hv, -⟩ := h
      simp [serve, leave, List.getElem?_set] at hv
    · exact (attached_set_ne rfl hnumber).mp h
  | close run' =>
    left
    have h : (l.close run').2.Attached number run := h
    rcases l.close_cases run' with hc | ⟨log, -, -, hc⟩ <;> rw [hc] at h
    · exact h
    · by_cases hr : run = run'
      · subst hr
        exact absurd h not_attached_mapFeeds_close
      · exact (attached_mapFeeds_ne hr).mp h
  | restart c => exact absurd h (not_attached_restart c)
  | logs run' => exact Or.inl h
  | release => exact Or.inl h
  | wait clock => exact Or.inl h

/-- **A watch that waits goes on to do so,** unless the request is one that ends it. -/
theorem attached_serve {r : Request} (h : l.Attached number run) (hr : ¬l.Detaches number run r) :
    (l.serve r).2.Attached number run := by
  cases r with
  | dispatch run' batch => exact (attached_dispatch batch).mpr h
  | watch run' =>
    show (l.watch run').2.Attached number run
    rcases l.watch_cases run' with hw | hw <;> rw [hw]
    · exact h
    · exact (attached_append rfl h.lt_length).mpr h
  | poll number' =>
    show (l.next number').2.Attached number run
    rcases l.next_cases number' with hn | ⟨w, hw, hn⟩
    · rw [hn]
      exact h
    · by_cases hnumber : number' = number
      · subst hnumber
        have hgoes : (w.poll l.disk).1 ≠ .ended := fun he => hr ⟨rfl, by rw [hn]; exact he⟩
        obtain ⟨v, hv, hrun, hopen⟩ := h
        rw [hw, Option.some.injEq, Option.some.injEq] at hv
        subst hv
        obtain ⟨v', hpoll, hv'⟩ := (w.poll_cases l.disk).resolve_left fun he => hgoes he.1
        rw [hn]
        refine ⟨v', ?_, hv'.run_eq.trans hrun, hv'.isOpen_eq.trans hopen⟩
        rw [List.getElem?_set_self (List.getElem?_eq_some_iff.mp hw).1, hpoll]
      · rw [hn]
        exact (attached_set_ne rfl hnumber).mpr h
  | leave number' => exact (attached_set_ne rfl hr).mpr h
  | close run' =>
    show (l.close run').2.Attached number run
    rcases l.close_cases run' with hc | ⟨log, -, -, hc⟩ <;> rw [hc]
    · exact h
    · exact (attached_mapFeeds_ne (Ne.symm hr)).mpr h
  | restart c => exact absurd trivial hr
  | logs run' => exact h
  | release => exact h
  | wait clock => exact h

/-- **No request lets go of a run and leaves somebody waiting for it.** -/
theorem heldLive_serve {r : Request} (h : l.HeldLive run) (ha : l.Attached number run)
    (ha' : (l.serve r).2.Attached number run) : (l.serve r).2.HeldLive run := by
  obtain ⟨log, hlog, hlive⟩ := h
  have hwatched : l.isWatched run := isWatched_iff.mpr ⟨number, ha⟩
  have hheld (run' : RunId) : (l.hold run').2.runs.get? run = some log := hold_of_watched hlog hlive hwatched
  cases r with
  | dispatch run' batch =>
    obtain ⟨-, -, -, hruns⟩ := l.dispatch_fields run' batch
    show (l.dispatch run' batch).2.HeldLive run
    rw [HeldLive, hruns, OrderedMap.get?_set]
    by_cases hr : run' = run
    · subst hr
      have hself : (l.hold run').1 = log := by
        have hboth := (l.hold_self run').1
        rw [hheld run', Option.some.injEq] at hboth
        exact hboth.symm
      rw [if_pos rfl, hself]
      exact ⟨_, rfl, RunLog.live_append hlive _ _ _ _⟩
    · rw [if_neg hr]
      exact ⟨log, hheld run', hlive⟩
  | watch run' =>
    show (l.watch run').2.HeldLive run
    rcases l.watch_cases run' with hw | hw <;> rw [hw]
    · exact ⟨log, hlog, hlive⟩
    · exact ⟨log, hheld run', hlive⟩
  | poll number' =>
    show (l.next number').2.HeldLive run
    rcases l.next_cases number' with hn | ⟨w, -, hn⟩ <;> rw [hn] <;> exact ⟨log, hlog, hlive⟩
  | close run' =>
    have ha' : (l.close run').2.Attached number run := ha'
    show (l.close run').2.HeldLive run
    rcases l.close_cases run' with hc | ⟨log', -, -, hc⟩ <;> rw [hc] at ha' ⊢
    · exact ⟨log, hlog, hlive⟩
    · have hr : run' ≠ run := by
        rintro rfl
        exact not_attached_mapFeeds_close ha'
      refine ⟨log, ?_, hlive⟩
      rw [mapFeeds, OrderedMap.get?_set, if_neg hr]
      exact hlog
  | release => exact ⟨log, release_of_watched hlog hlive hwatched, hlive⟩
  | restart c => exact absurd ha' (not_attached_restart c)
  | leave number' => exact ⟨log, hlog, hlive⟩
  | logs run' => exact ⟨log, hlog, hlive⟩
  | wait clock => exact ⟨log, hlog, hlive⟩

theorem attentive_serve (h : l.Attentive) (r : Request) : (l.serve r).2.Attentive := by
  intro number run ha
  rcases attached_of_serve ha with hb | ⟨-, hheld⟩
  · exact heldLive_serve (h number run hb) hb ha
  · exact hheld

/-- **Only a dispatch to a run and a look at its log make it held.** -/
theorem contains_serve {r : Request} (h : (l.serve r).2.runs.contains run) :
    l.runs.contains run ∨ (∃ batch, r = .dispatch run batch) ∨ r = .watch run ∧
      (l.serve r).2.runs = (l.hold run).2.runs := by
  cases r with
  | dispatch run' batch =>
    obtain ⟨-, -, -, hruns⟩ := l.dispatch_fields run' batch
    by_cases hr : run' = run
    · exact Or.inr (Or.inl ⟨batch, by rw [hr]⟩)
    · have h : (l.dispatch run' batch).2.runs.contains run := h
      rw [hruns, OrderedMap.contains, OrderedMap.get?_set, if_neg hr] at h
      exact Or.inl ((contains_hold h).resolve_left (Ne.symm hr))
  | watch run' =>
    have h : (l.watch run').2.runs.contains run := h
    show _ ∨ _ ∨ _ ∧ (l.watch run').2.runs = _
    rcases l.watch_cases run' with hw | hw <;> rw [hw] at h ⊢
    · exact Or.inl h
    · rcases contains_hold h with rfl | hheld
      · exact Or.inr (Or.inr ⟨rfl, rfl⟩)
      · exact Or.inl hheld
  | poll number' =>
    left
    have h : (l.next number').2.runs.contains run := h
    rcases l.next_cases number' with hn | ⟨w, -, hn⟩ <;> rw [hn] at h <;> exact h
  | close run' =>
    left
    have h : (l.close run').2.runs.contains run := h
    rcases l.close_cases run' with hc | ⟨log, hlog, -, hc⟩ <;> rw [hc] at h
    · exact h
    · by_cases hr : run' = run
      · subst hr
        exact Option.isSome_iff_exists.mpr ⟨log, hlog⟩
      · rwa [mapFeeds, OrderedMap.contains, OrderedMap.get?_set, if_neg hr] at h
  | release =>
    obtain ⟨log, hlog⟩ := Option.isSome_iff_exists.mp h
    exact Or.inl (Option.isSome_iff_exists.mpr ⟨log, release_eq_some hlog⟩)
  | restart c => cases h
  | leave number' => exact Or.inl h
  | logs run' => exact Or.inl h
  | wait clock => exact Or.inl h

/-- A run is held if there is room for it, or room is made for it as far as nobody waits. -/
theorem room_of_hold (h : l.runs.contains run = false) :
    (l.hold run).2.openRuns ≤ max l.config.maxOpenRuns 1 ∨
      ∀ run', run' ≠ run → (l.hold run).2.runs.contains run' → l.isWatched run' := by
  have hnone : l.runs.get? run = none := by
    rw [OrderedMap.contains, Option.isSome_eq_false_iff, Option.isNone_iff_eq_none] at h
    exact h
  unfold hold
  simp only [hnone]
  by_cases hfull : l.config.maxOpenRuns ≤ l.runs.size
  · right
    intro run' hr hheld
    rw [if_pos hfull, OrderedMap.contains, OrderedMap.get?_set, if_neg (Ne.symm hr)] at hheld
    obtain ⟨log, hlog⟩ := Option.isSome_iff_exists.mp hheld
    simp only [release, OrderedMap.get?_filter, Option.filter_eq_some_iff, Bool.and_eq_true] at hlog
    exact hlog.2.2
  · left
    rw [if_neg hfull]
    have hsize : (l.runs.set run .new).size ≤ l.runs.size + 1 := by
      rw [OrderedMap.size_set]
      split <;> omega
    show (l.runs.set run .new).size ≤ _
    omega

/-- **When a run comes to be held there is room for it, or all others are waited for.** -/
theorem room_of_new {r : Request} (hn : l.runs.contains run = false) (hc : (l.serve r).2.runs.contains run) :
    (l.serve r).2.openRuns ≤ max (l.serve r).2.config.maxOpenRuns 1 ∨
      ∀ run', run' ≠ run → (l.serve r).2.runs.contains run' → (l.serve r).2.isWatched run' := by
  have hwatched {run' : RunId} {r : Request} (hr : ∀ number, ¬l.Detaches number run' r) (h : l.isWatched run') :
      (l.serve r).2.isWatched run' := by
    obtain ⟨number, ha⟩ := isWatched_iff.mp h
    exact isWatched_iff.mpr ⟨number, attached_serve ha (hr number)⟩
  rcases contains_serve hc with hheld | ⟨batch, rfl⟩ | ⟨rfl, hruns⟩
  · rw [hn] at hheld
    cases hheld
  · obtain ⟨-, hconfig, -, hruns⟩ := l.dispatch_fields run batch
    have hkeys : run ∈ (l.hold run).2.runs.keys := by
      by_contra hnot
      have hself := (l.hold_self run).1
      rw [OrderedMap.get?_eq_none_iff.mpr hnot] at hself
      cases hself
    have hsize : (l.dispatch run batch).2.openRuns = (l.hold run).2.openRuns := by
      rw [openRuns, hruns, OrderedMap.size_set, if_pos hkeys]
      rfl
    refine (room_of_hold hn).imp (fun hroom => ?_) fun hothers run' hr hheld => ?_
    · show (l.dispatch run batch).2.openRuns ≤ max (l.dispatch run batch).2.config.maxOpenRuns 1
      rw [hsize, hconfig]
      exact hroom
    · have hheld : (l.dispatch run batch).2.runs.contains run' := hheld
      rw [hruns, OrderedMap.contains, OrderedMap.get?_set, if_neg (Ne.symm hr)] at hheld
      exact hwatched (fun _ hd => hd) (hothers run' hr hheld)
  · refine (room_of_hold hn).imp (fun hroom => ?_) fun hothers run' hr hheld => ?_
    · have hconfig : (l.serve (.watch run)).2.config = l.config := by
        show (l.watch run).2.config = _
        rcases l.watch_cases run with hw | hw <;> rw [hw]
        exact l.config_hold run
      rw [openRuns, hruns, hconfig]
      exact hroom
    · rw [hruns] at hheld
      exact hwatched (fun _ hd => hd) (hothers run' hr hheld)

/-! ## Histories -/

theorem length_watches_after (l : Ledger) (rs : List Request) : l.watches.length ≤ (l.after rs).watches.length := by
  induction rs using List.reverseRecOn with
  | nil => exact Nat.le_refl _
  | append_singleton rs r ih =>
    rw [after_concat]
    exact ih.trans (length_watches_serve _ r)

theorem attentive_after (h : l.Attentive) (rs : List Request) : (l.after rs).Attentive := by
  induction rs using List.reverseRecOn with
  | nil => exact h
  | append_singleton rs r ih =>
    rw [after_concat]
    exact attentive_serve ih r

/-- A watch that waits waited ever since it was begun. -/
theorem attached_of_after {rs : List Request} (h : (l.after rs).Attached number run)
    (hn : number < l.watches.length) : l.Attached number run := by
  induction rs using List.reverseRecOn with
  | nil => exact h
  | append_singleton rs r ih =>
    rw [after_concat] at h
    rcases attached_of_serve h with hb | ⟨hlast, -⟩
    · exact ih hb
    · have hle := l.length_watches_after rs
      omega

end

/-- **A run that somebody waits for is held on.** Whatever was asked for, and however few runs are to be held: a watch that
waits has waited ever since it was begun, and its run was held all the while. It goes on to wait unless it ends, or its
run is closed. What is dispatched to the run meanwhile is published to it, and to all others that wait for the run. When
another run comes to be held there is room for it, or all others are waited for. -/
theorem watched_run_held_on (config : Config) (disk : Disk) (clock : Clock) (rs : List Request) :
    let first := start config disk clock
    let now := first.after rs
    (∀ number run, now.Attached number run →
      ∀ before, before <+: rs → number < (first.after before).watches.length →
        (first.after before).Attached number run ∧ (first.after before).HeldLive run) ∧
    (∀ number run r, now.Attached number run → ¬now.Detaches number run r →
      (now.serve r).2.Attached number run ∧ (now.serve r).2.HeldLive run) ∧
    (∀ run batch, ∃ records,
      (∀ (number : Nat) (w : Watch), now.watches[number]? = some (some w) → w.run = run →
        (now.dispatch run batch).2.watches[number]? =
          some (some { w with feed := records.foldl Feed.push w.feed })) ∧
      (∀ e, (now.dispatch run batch).1 = .error e → records = []) ∧
      ∀ ack, (now.dispatch run batch).1 = .ok ack →
        ∃ start offset, records = placed start offset (opening start now.suppliedPreamble batch ++ batch) ∧
          ack = ⟨batch.length, start + (opening start now.suppliedPreamble batch).length⟩) ∧
    ∀ r run, now.runs.contains run = false → (now.serve r).2.runs.contains run →
      (now.serve r).2.openRuns ≤ max (now.serve r).2.config.maxOpenRuns 1 ∨
        ∀ run', run' ≠ run → (now.serve r).2.runs.contains run' → (now.serve r).2.isWatched run' := by
  intro first now
  have hfirst : first.Attentive := by
    rintro number run ⟨w, hw, -⟩
    cases hw
  refine ⟨?_, ?_, ?_, fun r run hn hc => room_of_new hn hc⟩
  · rintro number run h before ⟨later, rfl⟩ hn
    have hnow : ((first.after before).after later).Attached number run := by rwa [← after_append]
    have hbefore := attached_of_after hnow hn
    exact ⟨hbefore, attentive_after hfirst before number run hbefore⟩
  · intro number run r h hr
    have hafter := attached_serve h hr
    exact ⟨hafter, attentive_serve (attentive_after hfirst rs) r number run hafter⟩
  · intro run batch
    obtain ⟨records, hw, herror, hok⟩ := now.dispatch_published run batch
    refine ⟨records, ?_, herror, hok⟩
    intro number w hnumber hrun
    rw [hw, List.getElem?_map, hnumber, Option.map_some, Option.map_some, if_pos hrun]

/-- A ledger that has room for no run holds the one that is watched beside the one that was dispatched to last. -/
example :
    let run (n : Nat) : RunId := ⟨.ofNat n⟩
    let m (n : Nat) : Message := ⟨⟨.ofNat n⟩, ⟨5, 6⟩, .heartbeat⟩
    let now := (start { Config.rootedAt "d" with maxOpenRuns := 0 } .empty ⟨⟨0, 0⟩, 0⟩).after
      [.dispatch (run 1) [m 1], .watch (run 1), .dispatch (run 2) [m 2], .dispatch (run 3) [m 3]]
    now.isWatched (run 1) ∧ now.runs.contains (run 1) ∧ now.runs.contains (run 3) ∧ now.openRuns = 2 := by
  decide +kernel

end Ledger

end RunLedger
