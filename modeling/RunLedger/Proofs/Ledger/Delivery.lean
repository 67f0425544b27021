import RunLedger.Proofs.Ledger.Consistency
import RunLedger.Proofs.Ledger.Watching

/-!
# What watchers are handed

A watch is `Served` if it tracks the log of its run, and the run is held and live as long as the watch is published to;
or if it is over, and then it handed out all that it owed, unless somebody left it. `Served.serve` says that one request
keeps this.

* `served_after`: so does a history, from the request that began the watch on.
* `watch_hands_out_log`: what that means for the messages that a watch handed out, and for what it says next.
-/

namespace RunLedger.Ledger

/-- The messages that a watch handed out. -/
def handed (number : Nat) (events : List (Request × Answer)) : List Message :=
  events.filterMap fun
    | (.poll number', .said (.message m)) => if number' = number then some m else none
    | _ => none

/-- Whether a watch was begun, and nothing more is published to it: its feed is closed, or it is over. -/
def shut (l : Ledger) (number : Nat) : Bool := l.watches[number]?.any fun w => w.all fun w => !w.feed.isOpen

/-- A watch of a run that goes on. -/
structure Attends (l : Ledger) (run : RunId) (w : Watch) (given owed : List Message) : Prop where
  run_eq : w.run = run
  path_eq : w.path = l.config.logPath run
  tracks : w.Tracks (l.messages run) given owed
  held : w.feed.isOpen → ∃ log, l.runs.get? run = some log ∧ log.live

/-- A watch of a run that was begun, goes on or is over, and may have been left. -/
inductive Served (l : Ledger) (number : Nat) (run : RunId) (given owed : List Message) (left : Prop) : Prop
  | going (w : Watch) : l.watches[number]? = some (some w) → l.Attends run w given owed →
    Served l number run given owed left
  | gone : l.watches[number]? = some none → given <+: l.messages run → left ∨ owed <+: given →
    Served l number run given owed left

section

variable {l l' : Ledger} {number : Nat} {run : RunId} {given owed : List Message} {left left' : Prop} {w : Watch}

theorem isWatched_of_getElem? (hw : l.watches[number]? = some (some w)) (hr : w.run = run) (ho : w.feed.isOpen) :
    l.isWatched run := by
  rw [isWatched, List.any_eq_true]
  exact ⟨some w, List.mem_of_getElem? hw, by simp [hr, ho]⟩

theorem Served.lt_length (h : l.Served number run given owed left) : number < l.watches.length := by
  cases h with
  | going w hw _ => exact (List.getElem?_eq_some_iff.mp hw).1
  | gone hw _ _ => exact (List.getElem?_eq_some_iff.mp hw).1

theorem Served.imp_left (h : l.Served number run given owed left) (hl : left → left') :
    l.Served number run given owed left' := by
  cases h with
  | going w hw ha => exact .going w hw ha
  | gone hw hg ho => exact .gone hw hg (ho.imp_left hl)

/-- What a watch handed out is the front of the log. -/
theorem Served.prefix_messages (h : l.Served number run given owed left) : given <+: l.messages run := by
  cases h with
  | going w _ ha =>
    have : given <+: given ++ w.ready := List.prefix_append _ _
    rw [ha.tracks.handed_eq] at this
    exact this.trans (List.take_prefix _ _)
  | gone _ hg _ => exact hg

/-- As long as a watch is published to, it may owe any messages in the log. -/
theorem Served.owe (h : l.Served number run given owed left) (hs : l.shut number = false) {owed' : List Message}
    (ho : owed' <+: l.messages run) : l.Served number run given owed' left := by
  cases h with
  | going w hw ha =>
    have hopen : w.feed.isOpen := by simpa [shut, hw] using hs
    exact .going w hw { ha with tracks := ha.tracks.owe hopen ho }
  | gone hw _ _ => simp [shut, hw] at hs

theorem handed_append (number : Nat) (es es' : List (Request × Answer)) :
    handed number (es ++ es') = handed number es ++ handed number es' := List.filterMap_append

@[simp] theorem handed_message (number : Nat) (m : Message) :
    handed number [(.poll number, .said (.message m))] = [m] := by simp [handed]

/-- Only a message is handed out, and only by the watch that was asked. -/
theorem handed_eq_nil {r : Request} {a : Answer} (h : r = .poll number → ∀ m, a ≠ .said (.message m)) :
    handed number [(r, a)] = [] := by
  simp only [handed, List.filterMap_cons, List.filterMap_nil]
  split
  · rfl
  · rename_i he
    split at he
    · rename_i heq
      obtain ⟨rfl, rfl⟩ := Prod.mk.inj heq
      split at he
      · rename_i hn
        exact absurd rfl (h (hn ▸ rfl) _)
      · cases he
    · cases he

/-! ## One request -/

/-- A watch is served on if neither it nor the log of its run is touched, and the run is held on while it is watched. -/
theorem Served.of_same (h : l.Served number run given owed left) (hw : l'.watches[number]? = l.watches[number]?)
    (hm : l'.messages run = l.messages run) (hp : l'.config.logPath run = l.config.logPath run)
    (hheld : ∀ log, l.runs.get? run = some log → log.live → l.isWatched run →
      ∃ log', l'.runs.get? run = some log' ∧ log'.live)
    (hleft : left → left') : l'.Served number run given owed left' := by
  cases h with
  | going w hw' ha =>
    refine .going w (hw.trans hw') ⟨ha.run_eq, ha.path_eq.trans hp.symm, ?_, fun ho => ?_⟩
    · rw [hm]
      exact ha.tracks
    · obtain ⟨log, hlog, hlive⟩ := ha.held ho
      exact hheld log hlog hlive (isWatched_of_getElem? hw' ha.run_eq ho)
  | gone hw' hg ho =>
    refine .gone (hw.trans hw') ?_ (ho.imp_left hleft)
    rw [hm]
    exact hg

theorem hold_live {run' : RunId} {log : RunLog} (hlog : l.runs.get? run = some log) (hl : log.live)
    (hw : l.isWatched run) : ∃ log', (l.hold run').2.runs.get? run = some log' ∧ log'.live :=
  ⟨log, hold_of_watched hlog hl hw, hl⟩

/-- **A dispatch publishes to those who watch its run what it adds to the log**, and touches no other watch. -/
theorem Served.dispatched {run' : RunId} {new : List Message} {live : Bool} (h : l.Served number run given owed left)
    (hc : l.Consistent) (hd : Dispatched l l' run' new live) (hl : (l.hold run').1.live → live) :
    l'.Served number run given owed left := by
  have hwatches := congrArg (·[number]?) hd.watches_eq
  simp only [List.getElem?_map] at hwatches
  by_cases hr : run' = run
  · subst hr
    cases h with
    | going w hw ha =>
      rw [hw, Option.map_some, Option.map_some, if_pos ha.run_eq, hc.octets_eq] at hwatches
      refine .going _ hwatches ⟨ha.run_eq, ?_, ?_, fun ho => ?_⟩
      · rw [hd.config_eq]
        exact ha.path_eq
      · rw [hd.messages_self]
        exact ha.tracks.publish new
      · obtain ⟨t, -, hself⟩ := hd.grown
        simp only [Feed.isOpen_foldl_push] at ho
        obtain ⟨log, hlog, hlive⟩ := ha.held ho
        refine ⟨_, hself, hl ?_⟩
        rcases (l.hold_self run').2 with hb | ⟨hb, -⟩
        · rw [hlog] at hb
          rwa [← Option.some.inj hb]
        · rw [hlog] at hb
          cases hb
    | gone hw hg ho =>
      rw [hw] at hwatches
      refine .gone hwatches ?_ ho
      rw [hd.messages_self]
      exact hg.trans (List.prefix_append _ _)
  · have hr' : run ≠ run' := Ne.symm hr
    have hsame : l'.watches[number]? = l.watches[number]? := by
      rw [hwatches]
      cases h with
      | going w hw ha => simp [hw, ha.run_eq, hr']
      | gone hw _ _ => simp [hw]
    refine h.of_same hsame (hd.messages_other hr') (by rw [hd.config_eq]) (fun log hlog hlive hw => ?_) id
    rw [hd.others run hr']
    exact hold_live hlog hlive hw

/-- **The next thing that a watch has to say.** It can read the log; it says that there is nothing more for now only if
it handed out the whole log; and it ends only when nothing more is published to it, and it handed out all it owes. -/
theorem Served.next (h : l.Served number run given owed left) (hc : l.Consistent)
    (hsize : (l.octets run).length ≤ maxPosition) :
    (l.next number).2.Served number run (given ++ handed number [(.poll number, .said (l.next number).1)]) owed left ∧
      (∀ e, (l.next number).1 ≠ .failed e) ∧ ((l.next number).1 = .pending → given = l.messages run) ∧
      ((l.next number).1 = .ended → l.shut number ∧ (left ∨ owed <+: given)) := by
  have hgiven := h.prefix_messages
  cases h with
  | going w hw ha =>
    have hlt := (List.getElem?_eq_some_iff.mp hw).1
    have hnext : l.next number = ((w.poll l.disk).1, { l with watches := l.watches.set number (w.poll l.disk).2 }) := by
      simp [Ledger.next, hw]
    have hset (o : Option Watch) : (l.watches.set number o)[number]? = some o := List.getElem?_set_self hlt
    have hholds := hc.holds run
    rw [← ha.path_eq] at hholds
    have hoctets : l.disk.octets w.path = framed (l.messages run) := by rw [ha.path_eq]; exact hc.octets_eq run
    rw [hc.octets_eq] at hsize
    have hpoll := Watch.poll_spec hholds hoctets (hc.fits run) hsize ha.tracks
    rw [hnext]
    generalize w.poll l.disk = r at hpoll
    -- the watch after the answer attends the run if it did before
    have attends {v : Watch} {given' : List Message} {watches : List (Option Watch)}
        (ht : v.Tracks (l.messages run) given' owed) (hv : v.Resembles w) :
        Attends { l with watches := watches } run v given' owed :=
      ⟨hv.run_eq.trans ha.run_eq, hv.path_eq.trans ha.path_eq, ht, fun ho => ha.held (hv.isOpen_eq ▸ ho)⟩
    obtain ⟨said, v⟩ := r
    cases said with
    | message m =>
      cases v with
      | none => exact hpoll.elim
      | some v =>
        obtain ⟨ht, hv⟩ := hpoll
        refine ⟨.going v (hset _) ?_, by simp, by simp, by simp⟩
        rw [handed_message]
        exact attends ht hv
    | failed e => cases v <;> exact hpoll.elim
    | pending =>
      cases v with
      | none => exact hpoll.elim
      | some v =>
        obtain ⟨ht, hv, hall⟩ := hpoll
        refine ⟨.going v (hset _) ?_, by simp, fun _ => hall, by simp⟩
        rw [handed_eq_nil (by simp), List.append_nil]
        exact attends ht hv
    | ended =>
      cases v with
      | some v => exact hpoll.elim
      | none =>
        obtain ⟨hclosed, howed⟩ := hpoll
        rw [handed_eq_nil (by simp), List.append_nil]
        exact ⟨.gone (hset _) hgiven (Or.inr howed), by simp, by simp,
          fun _ => ⟨by simp [shut, hw, hclosed], Or.inr howed⟩⟩
  | gone hw hg ho =>
    have hnext : l.next number = (.ended, l) := by simp [Ledger.next, hw]
    rw [hnext, handed_eq_nil (by simp), List.append_nil]
    exact ⟨.gone hw hg ho, by simp, by simp, fun _ => ⟨by simp [shut, hw], ho⟩⟩

/-- Closing a run closes the feeds of those who watch it. -/
theorem Served.close (h : l.Served number run given owed left) (run' : RunId) :
    (l.close run').2.Served number run given owed left := by
  unfold Ledger.close
  split
  · rename_i log hlog
    split
    · rename_i hlive
      cases h with
      | going w hw ha =>
        by_cases hr : w.run = run'
        · refine .going { w with feed := w.feed.close } ?_ ⟨ha.run_eq, ha.path_eq, ha.tracks.close, by simp [Feed.close]⟩
          simp [mapFeeds, hw, hr]
        · refine .going w (by simp [mapFeeds, hw, hr]) ⟨ha.run_eq, ha.path_eq, ha.tracks, fun ho => ?_⟩
          have hne : run' ≠ run := fun h => hr (ha.run_eq.trans h.symm)
          simpa [mapFeeds, hne] using ha.held ho
      | gone hw hg ho => exact .gone (by simp [mapFeeds, hw]) hg ho
    · exact h
  · exact h

/-- Opening the ledger anew closes all feeds. -/
theorem Served.restart (h : l.Served number run given owed left) {c : Config} (hc : c.Agrees l.config) :
    (l.restart c).Served number run given owed left := by
  have hm : (l.restart c).messages run = l.messages run := by
    simp only [messages, octets, Ledger.restart, hc.logPath_eq]
  cases h with
  | going w hw ha =>
    refine .going { w with feed := w.feed.close } (by simp [Ledger.restart, hw])
      ⟨ha.run_eq, ?_, ?_, by simp [Feed.close]⟩
    · exact ha.path_eq.trans (hc.logPath_eq run).symm
    · rw [hm]
      exact ha.tracks.close
  | gone hw hg ho =>
    refine .gone (by simp [Ledger.restart, hw]) ?_ ho
    rw [hm]
    exact hg

/-- A watch that is left says nothing more. -/
theorem Served.leave (h : l.Served number run given owed left) (number' : Nat) :
    (l.leave number').Served number run given owed (left ∨ number' = number) := by
  by_cases hn : number' = number
  · subst hn
    exact .gone (List.getElem?_set_self h.lt_length) h.prefix_messages (Or.inl (Or.inr rfl))
  · exact h.of_same (List.getElem?_set_ne hn) rfl rfl (fun log hlog hlive _ => ⟨log, hlog, hlive⟩) Or.inl

/-- A watch is served on whatever else is asked than what it has to say. -/
theorem Served.serve_ne_poll (h : l.Served number run given owed left) (hc : l.Consistent) {r : Request}
    (hr : r.Keeps l.config) (hn : r ≠ .poll number) :
    (l.serve r).2.Served number run given owed (left ∨ r = .leave number) := by
  have hlt := h.lt_length
  have unchanged : l.Served number run given owed (left ∨ r = .leave number) := h.imp_left Or.inl
  cases r with
  | dispatch run' batch =>
    rcases dispatch_spec hc run' batch with ⟨e, -, hspec⟩ | ⟨-, hspec, -⟩
    · exact unchanged.dispatched hc hspec id
    · exact unchanged.dispatched hc hspec fun hl => by simp [hl]
  | watch run' =>
    have hkept : Kept l (l.serve (.watch run')).2 := kept_serve hr (by simp)
    refine h.of_same ?_ (hkept.messages_eq run) (hkept.logPath_eq run) (fun log hlog hlive hw => ?_) Or.inl
    all_goals
      simp only [Ledger.serve, Ledger.watch]
      split
    · simp [List.getElem?_append_left hlt]
    · rfl
    · exact hold_live hlog hlive hw
    · exact ⟨log, hlog, hlive⟩
  | poll number' =>
    have hne : number' ≠ number := fun h => hn (h ▸ rfl)
    have hkept : Kept l (l.serve (.poll number')).2 := kept_serve hr (by simp)
    refine unchanged.of_same ?_ (hkept.messages_eq run) (hkept.logPath_eq run)
      (fun log hlog hlive _ => ⟨log, ?_, hlive⟩) id
    all_goals
      simp only [Ledger.serve, Ledger.next]
      split
    · rfl
    · exact List.getElem?_set_ne hne
    · exact hlog
    · exact hlog
  | leave number' => simpa [Ledger.serve] using h.leave number'
  | close run' => exact unchanged.close run'
  | logs run' => exact unchanged
  | release =>
    exact unchanged.of_same rfl rfl rfl (fun log hlog hlive hw => ⟨log, release_of_watched hlog hlive hw, hlive⟩) id
  | restart c => exact unchanged.restart hr
  | wait clock => exact unchanged.of_same rfl rfl rfl (fun log hlog hlive _ => ⟨log, hlog, hlive⟩) id

/-- **One request keeps a watch served.** -/
theorem Served.serve (h : l.Served number run given owed left) (hc : l.Consistent) {r : Request}
    (hr : r.Keeps l.config) (hsize : (l.octets run).length ≤ maxPosition) :
    (l.serve r).2.Served number run (given ++ handed number [(r, (l.serve r).1)]) owed
      (left ∨ r = .leave number) := by
  by_cases hn : r = .poll number
  · subst hn
    simpa [Ledger.serve] using (h.next hc hsize).1
  · rw [handed_eq_nil fun h => absurd h hn, List.append_nil]
    exact h.serve_ne_poll hc hr hn

/-! ## What is owed -/

theorem shut_dispatch (hc : l.Consistent) (run' : RunId) (batch : List Message) :
    (l.serve (.dispatch run' batch)).2.shut number = l.shut number := by
  have hwatches : ∃ new live, Dispatched l (l.serve (.dispatch run' batch)).2 run' new live := by
    rcases dispatch_spec hc run' batch with ⟨e, -, hspec⟩ | ⟨-, hspec, -⟩
    · exact ⟨_, _, hspec⟩
    · exact ⟨_, _, hspec⟩
  obtain ⟨new, live, hspec⟩ := hwatches
  simp only [shut, hspec.watches_eq, List.getElem?_map, Option.any_map]
  congr 1
  funext o
  cases o with
  | none => rfl
  | some w =>
    by_cases hr : w.run = run' <;> simp [hr, Feed.isOpen_foldl_push]

/-- As long as more is published to it, a watch owes all that comes into the log. -/
theorem Served.serve_owing (h : l.Served number run given owed left) (hc : l.Consistent) {r : Request}
    (hr : r.Keeps l.config) (hsize : (l.octets run).length ≤ maxPosition) :
    (l.serve r).2.Served number run (given ++ handed number [(r, (l.serve r).1)])
      (if l.shut number then owed else (l.serve r).2.messages run) (left ∨ r = .leave number) := by
  by_cases hs : l.shut number
  · rw [if_pos hs]
    exact h.serve hc hr hsize
  · rw [if_neg hs]
    have hs' : l.shut number = false := by simpa using hs
    have hserved := (h.owe hs' List.prefix_rfl).serve hc hr hsize
    by_cases hd : ∃ run' batch, r = .dispatch run' batch
    · obtain ⟨run', batch, rfl⟩ := hd
      exact hserved.owe (by rw [shut_dispatch hc, hs']) List.prefix_rfl
    · rwa [← (kept_serve hr fun run' batch h => hd ⟨run', batch, h⟩).messages_eq run] at hserved

/-! ## Histories -/

/-- A watch that was begun tracks the log of its run from the start. -/
theorem served_of_watch (h : (l.serve (.watch run)).1 = .watching (.ok number)) :
    number = l.watches.length ∧ (l.serve (.watch run)).2.Served number run [] (l.messages run) False := by
  simp only [Ledger.serve, Ledger.watch] at h ⊢
  split at h
  · rename_i hb
    rw [if_pos hb]
    simp only [watches_hold, Prod.map_fst, Answer.watching.injEq, Except.ok.injEq] at h
    subst h
    let w : Watch := .new run (l.config.logPath run) (.new l.config.watchCapacity (l.hold run).1.live)
    refine ⟨rfl, .going w (by simp [w]) ⟨rfl, by simp [w, Watch.new], ?_, fun ho => ⟨_, (l.hold_self run).1, ho⟩⟩⟩
    rw [← (kept_hold l run).messages_eq run]
    exact Watch.tracks_new _ _ _ _ _
  · simp at h

theorem length_watches_serve (l : Ledger) (r : Request) : l.watches.length ≤ (l.serve r).2.watches.length := by
  cases r with
  | dispatch run batch =>
    simp only [Ledger.serve, dispatch, Prod.map_snd, id]
    split <;> simp [mapFeeds]
  | watch run =>
    simp only [Ledger.serve, Ledger.watch]
    split <;> simp
  | poll number =>
    simp only [Ledger.serve, Ledger.next]
    split <;> simp
  | leave number => simp [Ledger.serve, Ledger.leave]
  | close run =>
    simp only [Ledger.serve, Ledger.close]
    split
    · split <;> simp [mapFeeds]
    · simp
  | restart c => simp [Ledger.serve, Ledger.restart]
  | _ => exact Nat.le_refl _

/-- A watch that was not begun handed out nothing. -/
theorem handed_of_length_le {rs : List Request} (h : (l.after rs).watches.length ≤ number) :
    handed number (l.events rs) = [] := by
  induction rs using List.reverseRecOn with
  | nil => rfl
  | append_singleton rs r ih =>
    rw [after_concat] at h
    have hlt := Nat.le_trans ((l.after rs).length_watches_serve r) h
    rw [events_concat, handed_append, ih hlt, List.nil_append]
    refine handed_eq_nil ?_
    rintro rfl m
    simp [Ledger.serve, Ledger.next, List.getElem?_eq_none hlt]

/-- Everything that was in the log of a run at some moment, unless a watch was shut already before that. -/
def Owes (l : Ledger) (rs : List Request) (number : Nat) (run : RunId) (owed : List Message) : Prop :=
  ∀ before r later, rs = before ++ r :: later → (l.after before).shut number = false →
    (l.after (before ++ [r])).messages run <+: owed

/-- As long as a watch is not shut it owes the whole log, and from then on no more than that. -/
theorem Owes.concat {rs : List Request} {r : Request} (h : l.Owes rs number run owed) (hc : l.Consistent)
    (hr : ∀ x ∈ rs ++ [r], x.Keeps l.config) : l.Owes (rs ++ [r]) number run
      (if (l.after rs).shut number then owed else (l.after (rs ++ [r])).messages run) := by
  intro before r' later hsplit hs
  rcases List.eq_nil_or_concat later with rfl | ⟨later', x, rfl⟩
  · obtain ⟨rfl, hr'⟩ := List.append_inj' hsplit rfl
    cases hr'
    simp [hs]
  · have hrs : rs = before ++ r' :: later' := by
      rw [List.concat_eq_append, ← List.cons_append, ← List.append_assoc] at hsplit
      exact (List.append_inj' hsplit rfl).1
    split
    · exact h before r' later' hrs hs
    · exact messages_prefix hc hr ⟨later' ++ [r], by simp [hrs]⟩ run

/-- **A history keeps a watch served**, and in the end it owes what came into the log before it was shut. -/
theorem served_after {rs : List Request} (hc : l.Consistent) (hr : ∀ r ∈ rs, r.Keeps l.config)
    (hw : (.watch run, .watching (.ok number)) ∈ l.events rs)
    (hsize : ((l.after rs).octets run).length ≤ maxPosition) :
    ∃ owed, (l.after rs).Served number run (handed number (l.events rs)) owed (.leave number ∈ rs) ∧
      l.Owes rs number run owed := by
  induction rs using List.reverseRecOn with
  | nil => cases hw
  | append_singleton rs r ih =>
    have hr' : ∀ r ∈ rs, r.Keeps l.config := fun x hx => hr x (List.mem_append_left _ hx)
    obtain ⟨hc', ha⟩ := consistent_after hc hr'
    have hkeeps : r.Keeps (l.after rs).config := (hr r (by simp)).of_agrees ha
    have hsize' := Nat.le_trans (length_octets_le hc hr (List.prefix_append rs [r]) run) hsize
    have hleft : Request.leave number ∈ rs ++ [r] ↔ .leave number ∈ rs ∨ r = .leave number := by
      simp [eq_comm]
    rw [events_concat] at hw ⊢
    rw [handed_append, hleft]
    rcases List.mem_append.mp hw with hw | hw
    · obtain ⟨owed, hserved, howes⟩ := ih hr' hw hsize'
      refine ⟨_, ?_, howes.concat hc hr⟩
      rw [after_concat]
      exact hserved.serve_owing hc' hkeeps hsize'
    · -- the watch begins now
      obtain ⟨rfl, hn⟩ := Prod.mk.inj (List.mem_singleton.mp hw)
      obtain ⟨hlen, hserved⟩ := served_of_watch hn.symm
      have hm : (l.after (rs ++ [.watch run])).messages run = (l.after rs).messages run := by
        rw [after_concat]
        exact (kept_serve hkeeps (by simp)).messages_eq run
      refine ⟨(l.after rs).messages run, ?_, fun before r' later hsplit _ => ?_⟩
      · rw [handed_of_length_le (Nat.le_of_eq hlen.symm), handed_eq_nil (fun h => by cases h), after_concat]
        exact hserved.imp_left False.elim
      · rw [← hm]
        exact messages_prefix hc hr ⟨later, by simp [hsplit]⟩ run

/-- **A watch hands out the log of its run from its start on, without gaps.** Whatever a ledger is asked that was opened
on an empty disk, and at every moment: what a watch handed out is the front of the log. When it is asked next, it does
not fail; it has nothing more to say for now only if it handed out the whole log; and it ends, unless somebody left it,
only when it is shut, and after it handed out everything that was in the log until then. That the file has fewer than
`UInt64.size` octets is what every file has. -/
theorem watch_hands_out_log (config : Config) (clock : Clock) {rs : List Request} (hr : ∀ r ∈ rs, r.Keeps config)
    {run : RunId} {number : Nat}
    (hw : (.watch run, .watching (.ok number)) ∈ (start config .empty clock).events rs)
    (hsize : (((start config .empty clock).after rs).octets run).length < UInt64.size) :
    let start := start config .empty clock
    let l := start.after rs
    let given := handed number (start.events rs)
    given <+: l.messages run ∧ (∀ e, (l.next number).1 ≠ .failed e) ∧
      ((l.next number).1 = .pending → given = l.messages run) ∧
      ((l.next number).1 = .ended → .leave number ∉ rs → l.shut number ∧
        ∀ before r later, rs = before ++ r :: later → (start.after before).shut number = false →
          (start.after (before ++ [r])).messages run <+: given) := by
  intro start l given
  have hstart : start.Consistent := consistent_start config clock
  have hsize : (l.octets run).length ≤ maxPosition := Nat.le_sub_one_of_lt hsize
  obtain ⟨owed, hserved, howes⟩ := served_after hstart hr hw hsize
  obtain ⟨-, hfailed, hpending, hended⟩ := hserved.next (consistent_after hstart hr).1 hsize
  refine ⟨hserved.prefix_messages, hfailed, hpending, fun he hleft => ?_⟩
  obtain ⟨hs, hgiven⟩ := hended he
  exact ⟨hs, fun before r later hsplit hb => (howes before r later hsplit hb).trans (hgiven.resolve_left hleft)⟩

/-- A watch with the smallest feed, behind which messages come faster than it is asked, until its run is closed and
dispatched to once more. -/
theorem watch_hands_out_log_lagging :
    let config := { Config.rootedAt "d" with watchCapacity := 0, maxOpenRuns := 0 }
    let clock : Clock := ⟨⟨0, 0⟩, 0⟩
    let run : RunId := ⟨.ofNat 1⟩
    let m (n : Nat) : Message := ⟨⟨.ofNat n⟩, ⟨5, 6⟩, .heartbeat⟩
    let rs : List Request := [.dispatch run [m 1], .watch run, .poll 0, .dispatch run [m 2, m 3],
      .dispatch ⟨.ofNat 2⟩ [m 1], .poll 0, .close run, .poll 0, .dispatch run [m 4], .poll 0, .poll 0]
    let start := start config .empty clock
    let l := start.after rs
    (∀ r ∈ rs, r.Keeps config) ∧ (.watch run, .watching (.ok 0)) ∈ start.events rs ∧
      (l.octets run).length < UInt64.size ∧ handed 0 (start.events rs) <+: l.messages run ∧
      (l.next 0).1 = .ended ∧ .leave 0 ∉ rs ∧ l.shut 0 ∧
      ∀ before r later, rs = before ++ r :: later → (start.after before).shut 0 = false →
        (start.after (before ++ [r])).messages run <+: handed 0 (start.events rs) := by
  intro config clock run m rs start l
  have hr : ∀ r ∈ rs, r.Keeps config := by simp [rs, Request.Keeps]
  have hw : (.watch run, .watching (.ok 0)) ∈ start.events rs := by decide +kernel
  have hsize : (l.octets run).length < UInt64.size := by decide +kernel
  have hended : (l.next 0).1 = .ended := by decide +kernel
  have hleft : .leave 0 ∉ rs := by simp [rs]
  have h := watch_hands_out_log config clock hr hw hsize
  exact ⟨hr, hw, hsize, h.1, hended, hleft, h.2.2.2 hended hleft⟩

end

end RunLedger.Ledger
