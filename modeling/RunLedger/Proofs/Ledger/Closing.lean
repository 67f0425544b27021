import Mathlib.Data.List.Infix
import RunLedger.Proofs.Ledger.Delivery
import RunLedger.Proofs.Ledger.Numbering

/-!
# Closed runs

A run that was closed stays `Closed` as long as the ledger holds it and no messages are dispatched to it
(`closed_after`). Who begins to watch it then is handed the log and reaches the end of it, whatever else happens
(`closed_until_dispatch`).

That a run is closed is remembered nowhere but with the run, and closed runs are the first to be let go. A closed run
that was let go is live again as soon as somebody watches it (`closed_forgotten`).
-/

namespace RunLedger.Ledger

/-! ## Watches to which nothing more is published -/

/-- A watch with a closed feed has something to say, or ends, and its feed stays closed. -/
theorem Watch.poll_of_closed {w : Watch} {d : Disk} (h : w.feed.isOpen = false) :
    (w.poll d).1 ≠ .pending ∧ ∀ v, (w.poll d).2 = some v → v.feed.isOpen = false := by
  fun_induction Watch.poll d w
  case case1 | case2 | case4 =>
    refine ⟨by simp, fun v hv => ?_⟩
    cases hv
    exact h
  case case5 => exact ⟨by simp, fun v hv => by cases hv⟩
  case case3 ih | case10 ih => exact ih h
  case case6 feed he ih =>
    obtain rfl := Feed.receive_missed he
    exact ih h
  case case7 p feed he _ ih | case9 p feed he _ _ ih => exact ih ((Feed.receive_message he).2.2.1.trans h)
  case case8 p feed he _ _ =>
    refine ⟨by simp, fun v hv => ?_⟩
    cases hv
    exact (Feed.receive_message he).2.2.1.trans h
  case case11 feed he =>
    have hopen := (Feed.receive_empty he).2.2
    rw [h] at hopen
    cases hopen

section Shut

variable {l l' : Ledger} {number : Nat}

theorem shut_iff : l.shut number ↔
    ∃ o, l.watches[number]? = some o ∧ ∀ w, o = some w → w.feed.isOpen = false := by
  unfold shut
  cases l.watches[number]? with
  | none => simp
  | some o => cases o <;> simp

/-- A change to all watches that opens no feed leaves a shut watch shut. -/
theorem shut_of_map {f : Watch → Watch} (h : l.shut number) (hw : l'.watches = l.watches.map (·.map f))
    (hf : ∀ w, w.feed.isOpen = false → (f w).feed.isOpen = false) : l'.shut number := by
  obtain ⟨o, ho, hclosed⟩ := shut_iff.mp h
  refine shut_iff.mpr ⟨o.map f, by simp [hw, ho], fun w hw => ?_⟩
  obtain ⟨v, rfl, rfl⟩ := Option.map_eq_some_iff.mp hw
  exact hf v (hclosed v rfl)

/-- A watch that is shut has something to say, or ends, and stays shut. -/
theorem next_of_shut (h : l.shut number) (number' : Nat) :
    (l.next number).1 ≠ .pending ∧ (l.next number').2.shut number := by
  obtain ⟨o, ho, hclosed⟩ := shut_iff.mp h
  constructor
  · cases o with
    | none => simp [next, ho]
    | some w => simpa [next, ho] using (Watch.poll_of_closed (d := l.disk) (hclosed w rfl)).1
  · by_cases hn : number' = number
    · subst hn
      cases o with
      | none => simpa [next, ho] using h
      | some w =>
        have hlt := (List.getElem?_eq_some_iff.mp ho).1
        have hpoll := (Watch.poll_of_closed (d := l.disk) (hclosed w rfl)).2
        exact shut_iff.mpr ⟨(w.poll l.disk).2, by simp [next, ho, List.getElem?_set_self hlt], hpoll⟩
    · refine shut_iff.mpr ⟨o, ?_, hclosed⟩
      unfold next
      split
      · exact ho
      · rwa [List.getElem?_set_ne hn]

/-- **Nothing is published again to a watch that was shut.** -/
theorem shut_serve (hc : l.Consistent) (h : l.shut number) (r : Request) : (l.serve r).2.shut number := by
  cases r with
  | dispatch run batch => rwa [shut_dispatch hc]
  | watch run =>
    obtain ⟨o, ho, hclosed⟩ := shut_iff.mp h
    have hlt := (List.getElem?_eq_some_iff.mp ho).1
    refine shut_iff.mpr ⟨o, ?_, hclosed⟩
    simp only [serve, watch]
    split <;> simp [ho, List.getElem?_append_left hlt]
  | poll number' => exact (next_of_shut h number').2
  | leave number' =>
    by_cases hn : number' = number
    · subst hn
      obtain ⟨o, ho, -⟩ := shut_iff.mp h
      have hlt := (List.getElem?_eq_some_iff.mp ho).1
      exact shut_iff.mpr ⟨none, by simp [serve, leave, List.getElem?_set_self hlt], fun w hw => by cases hw⟩
    · simpa [serve, leave, shut, List.getElem?_set_ne hn] using h
  | close run =>
    simp only [serve, close]
    split
    · split
      · refine shut_of_map h rfl fun w hw => ?_
        split
        · rfl
        · exact hw
      · exact h
    · exact h
  | restart c => exact shut_of_map h rfl fun w _ => rfl
  | _ => exact h

theorem shut_after {rs : List Request} (hc : l.Consistent) (h : l.shut number) (hr : ∀ r ∈ rs, r.Keeps l.config) :
    (l.after rs).shut number := by
  have hserve {l : Ledger} (h : l.Consistent ∧ l.shut number) {r : Request} (hr : r.Keeps l.config) :
      ((l.serve r).2.Consistent ∧ (l.serve r).2.shut number) ∧ (l.serve r).2.config.Agrees l.config := by
    obtain ⟨hc, ha⟩ := consistent_serve h.1 hr
    exact ⟨⟨hc, shut_serve h.1 h.2 r⟩, ha⟩
  exact (after_of_serve hserve ⟨hc, h⟩ hr).1.2

end Shut

/-! ## Runs that are closed -/

/-- The run is held, and what is appended to its log is not published. -/
def Closed (l : Ledger) (run : RunId) : Prop := ∃ log, l.runs.get? run = some log ∧ log.live = false

section Closed

variable {l : Ledger} {run : RunId}

theorem closed_of_close (h : (l.close run).1 = true) : (l.close run).2.Closed run := by
  unfold close at h ⊢
  split at h
  · rename_i log _
    split at h
    · rename_i hlive
      rw [if_pos hlive]
      exact ⟨{ log with live := false }, by simp [mapFeeds], rfl⟩
    · cases h
  · cases h

/-- A run that is closed is not closed again. -/
theorem Closed.close_eq (h : l.Closed run) : l.close run = (false, l) := by
  obtain ⟨log, hlog, hlive⟩ := h
  simp [Ledger.close, hlog, hlive]

/-- A run that is closed is held on as it is, or let go. -/
theorem Closed.hold (h : l.Closed run) (run' : RunId) (hheld : (l.hold run').2.runs.contains run) :
    (l.hold run').2.Closed run := by
  obtain ⟨log, hlog, hlive⟩ := h
  by_cases hr : run = run'
  · subst hr
    rw [Ledger.hold, hlog]
    exact ⟨log, hlog, hlive⟩
  · obtain ⟨log', hlog'⟩ := Option.isSome_iff_exists.mp hheld
    have := hold_eq_some hr hlog'
    rw [hlog] at this
    cases this
    exact ⟨log, hlog', hlive⟩

theorem Closed.of_get?_eq {l' : Ledger} (h : l.Closed run) (he : l'.runs.get? run = l.runs.get? run) :
    l'.Closed run := by
  obtain ⟨log, hlog, hlive⟩ := h
  exact ⟨log, he.trans hlog, hlive⟩

/-- A run that is closed is opened only by messages that are dispatched to it. -/
theorem Closed.dispatched {l' : Ledger} {run' : RunId} {new : List Message} {live : Bool} (h : l.Closed run)
    (hd : Dispatched l l' run' new live) (hl : run' = run → live = (l.hold run').1.live)
    (hheld : l'.runs.contains run) : l'.Closed run := by
  by_cases hr : run = run'
  · subst hr
    obtain ⟨log, hlog, hlive⟩ := h
    obtain ⟨t, -, hself⟩ := hd.grown
    have hlog' : (l.hold run).1 = log := by simp [Ledger.hold, hlog]
    exact ⟨_, hself, by rw [hl rfl, hlog', hlive]⟩
  · have he := hd.others run hr
    refine (h.hold run' ?_).of_get?_eq he
    rwa [OrderedMap.contains, ← he]

/-- **A run that is closed stays so**, unless it is let go or messages are dispatched to it. -/
theorem Closed.serve (h : l.Closed run) (hc : l.Consistent) {r : Request} (hn : acks run [(r, (l.serve r).1)] = [])
    (hheld : (l.serve r).2.runs.contains run) : (l.serve r).2.Closed run := by
  cases r with
  | dispatch run' batch =>
    rcases dispatch_spec hc run' batch with ⟨e, -, hspec⟩ | ⟨hok, hspec, -⟩
    · exact h.dispatched hspec (fun _ => rfl) hheld
    · refine h.dispatched hspec (fun hr => ?_) hheld
      subst hr
      have hnil : batch = [] := by simpa [acks, Ledger.serve, hok] using hn
      simp [hnil]
  | watch run' =>
    simp only [Ledger.serve, Ledger.watch] at hheld ⊢
    split
    · rename_i hb
      rw [if_pos hb] at hheld
      exact h.hold run' hheld
    · exact h
  | poll number =>
    simp only [Ledger.serve, next]
    split <;> exact h
  | close run' =>
    simp only [Ledger.serve, Ledger.close]
    split
    · rename_i log' hlog'
      split
      · rename_i hlive'
        refine h.of_get?_eq ?_
        have hne : run' ≠ run := by
          rintro rfl
          obtain ⟨log, hlog, hlive⟩ := h
          rw [hlog] at hlog'
          cases hlog'
          rw [hlive] at hlive'
          cases hlive'
        simp [mapFeeds, hne]
      · exact h
    · exact h
  | release =>
    obtain ⟨log', hlog'⟩ := Option.isSome_iff_exists.mp hheld
    exact h.of_get?_eq (hlog'.trans (release_eq_some hlog').symm)
  | restart c => cases hheld
  | _ => exact h

/-- **Every history keeps a closed run closed**, as long as it is held and no messages are dispatched to it. -/
theorem closed_after {rs : List Request} (h : l.Closed run) (hc : l.Consistent) (hr : ∀ r ∈ rs, r.Keeps l.config)
    (hn : acks run (l.events rs) = []) (hheld : ∀ before, before <+: rs → (l.after before).runs.contains run) :
    (l.after rs).Closed run := by
  induction rs using List.reverseRecOn with
  | nil => exact h
  | append_singleton rs r ih =>
    have hr' : ∀ r ∈ rs, r.Keeps l.config := fun x hx => hr x (List.mem_append_left _ hx)
    rw [events_concat, acks_append, List.append_eq_nil_iff] at hn
    have ih := ih hr' hn.1 fun before hb => hheld before (hb.trans (List.prefix_append _ _))
    have hlast := hheld (rs ++ [r]) List.prefix_rfl
    rw [after_concat] at hlast ⊢
    exact ih.serve (consistent_after hc hr').1 hn.2 hlast

/-- Who begins to watch a closed run is shut from the start. -/
theorem Closed.watch (h : l.Closed run) :
    (l.watch run).1 = .ok l.watches.length ∧ (l.watch run).2.shut l.watches.length := by
  obtain ⟨log, hlog, hlive⟩ := h
  have hcontains : l.runs.contains run := by simp [OrderedMap.contains, hlog]
  simp [Ledger.watch, hcontains, Ledger.hold, hlog, shut, Watch.new, Feed.new, hlive]

end Closed

/-! ## Watching a closed run -/

/-- From now on, whatever else is asked, the watch hands out the log of the run from its start on, one message each time
that it is asked, and ends once it handed out what is in the log now. -/
def Drains (l : Ledger) (number : Nat) (run : RunId) : Prop :=
  ∀ rs : List Request, (∀ r ∈ rs, r.Keeps l.config) → ((l.after rs).octets run).length < UInt64.size →
    let given := handed number (l.events rs)
    given <+: (l.after rs).messages run ∧
      ((∃ m, ((l.after rs).next number).1 = .message m ∧ given ++ [m] <+: (l.after rs).messages run) ∨
        ((l.after rs).next number).1 = .ended ∧ (.leave number ∈ rs ∨ l.messages run <+: given))

section Drains

variable {l : Ledger} {run : RunId}

/-- **A watch of a closed run hands out the log and then ends.** -/
theorem Closed.drains (h : l.Closed run) (hc : l.Consistent) : (l.watch run).2.Drains l.watches.length run := by
  intro rs hr hsize given
  obtain ⟨hanswer, hshut⟩ := h.watch
  have hconfig : (l.watch run).2.config.Agrees l.config := (kept_serve (r := .watch run) trivial (by simp)).agrees
  -- the history from the request that begins the watch on
  let history : List Request := .watch run :: rs
  let later := l.after history
  have hhanded : handed l.watches.length (l.events history) = given := by
    rw [show l.events history = [(.watch run, (l.serve (.watch run)).1)] ++ (l.watch run).2.events rs from rfl,
      handed_append, handed_eq_nil fun hp => by cases hp]
    rfl
  have hkeeps : ∀ r ∈ history, r.Keeps l.config := by
    intro r hm
    rcases List.mem_cons.mp hm with rfl | hm
    · trivial
    · exact (hr r hm).of_agrees hconfig.symm
  have hbegun : (.watch run, .watching (.ok l.watches.length)) ∈ l.events history := by
    have : (l.serve (.watch run)).1 = .watching (.ok l.watches.length) := congrArg Answer.watching hanswer
    rw [← this]
    exact List.mem_cons_self
  have hle : (later.octets run).length ≤ maxPosition := Nat.le_sub_one_of_lt hsize
  obtain ⟨owed, hserved, howes⟩ := served_after hc hkeeps hbegun hle
  rw [hhanded] at hserved
  have howed : (l.watch run).2.messages run <+: owed := howes [] (.watch run) rs rfl (by simp [shut])
  have hbegin : (l.watch run).2.Consistent := (consistent_serve hc (r := .watch run) trivial).1
  have hshut : ((l.watch run).2.after rs).shut l.watches.length := shut_after hbegin hshut hr
  -- what it says next
  obtain ⟨hserved', hfailed, -, hended⟩ := hserved.next (consistent_after hc hkeeps).1 hle
  refine ⟨hserved.prefix_messages, ?_⟩
  cases hnext : (later.next l.watches.length).1 with
  | message m =>
    have hfront := hserved'.prefix_messages
    rw [hnext, handed_message, show (later.next l.watches.length).2.messages run = later.messages run from
      (kept_serve (r := .poll l.watches.length) trivial (by simp)).messages_eq run] at hfront
    exact Or.inl ⟨m, hnext, hfront⟩
  | failed e => exact absurd hnext (hfailed e)
  | pending => exact absurd hnext (next_of_shut hshut 0).1
  | ended =>
    refine Or.inr ⟨hnext, ?_⟩
    rcases (hended hnext).2 with hleft | hgiven
    · exact Or.inl (by simpa [history] using hleft)
    · exact Or.inr (howed.trans hgiven)

end Drains

/-- **A closed run stays closed until messages are dispatched to it**, as long as the ledger holds it. Whatever else a
ledger is asked that was opened on an empty disk, after it closed a run: it does not close the run again; and who then
begins to watch the run is handed the log, and reaches the end of it once everything was handed out that was in the log
when the watch began. -/
theorem closed_until_dispatch (config : Config) (clock : Clock) {rs later : List Request}
    (hr : ∀ r ∈ rs ++ later, r.Keeps config) {run : RunId}
    (hclose : (((start config .empty clock).after rs).close run).1 = true)
    (hn : acks run ((((start config .empty clock).after rs).close run).2.events later) = [])
    (hheld : ∀ before, before <+: later →
      ((((start config .empty clock).after rs).close run).2.after before).runs.contains run) :
    let now := (((start config .empty clock).after rs).close run).2.after later
    (now.close run).1 = false ∧
      ∃ number, (now.watch run).1 = .ok number ∧ (now.watch run).2.Drains number run := by
  intro now
  obtain ⟨hc, ha⟩ := consistent_after (consistent_start config clock) fun r hm => hr r (List.mem_append_left _ hm)
  obtain ⟨hc₁, ha₁⟩ := consistent_serve hc (r := .close run) trivial
  have hlater : ∀ r ∈ later, r.Keeps (((start config .empty clock).after rs).close run).2.config :=
    fun r hm => (hr r (List.mem_append_right _ hm)).of_agrees (ha₁.trans ha)
  have hclosed : now.Closed run := closed_after (closed_of_close hclose) hc₁ hlater hn hheld
  refine ⟨by rw [hclosed.close_eq], _, hclosed.watch.1, ?_⟩
  exact hclosed.drains (consistent_after hc₁ hlater).1

/-- A closed run beside another one, in a ledger that has room for both. -/
theorem closed_until_dispatch_roomy :
    let config := { Config.rootedAt "d" with maxOpenRuns := 2 }
    let clock : Clock := ⟨⟨0, 0⟩, 0⟩
    let run (n : Nat) : RunId := ⟨.ofNat n⟩
    let m (n : Nat) : Message := ⟨⟨.ofNat n⟩, ⟨5, 6⟩, .heartbeat⟩
    let rs : List Request := [.dispatch (run 1) [m 1]]
    let later : List Request := [.dispatch (run 2) [m 2], .dispatch (run 1) [], .watch (run 1), .poll 0]
    let closed := (((start config .empty clock).after rs).close (run 1)).2
    let now := closed.after later
    (∀ r ∈ rs ++ later, r.Keeps config) ∧ (((start config .empty clock).after rs).close (run 1)).1 = true ∧
      acks (run 1) (closed.events later) = [] ∧
      (∀ before, before <+: later → (closed.after before).runs.contains (run 1)) ∧
      (now.close (run 1)).1 = false ∧
      ∃ number, (now.watch (run 1)).1 = .ok number ∧ (now.watch (run 1)).2.Drains number (run 1) := by
  intro config clock run m rs later closed now
  have hr : ∀ r ∈ rs ++ later, r.Keeps config := by simp [rs, later, Request.Keeps]
  have hclose : (((start config .empty clock).after rs).close (run 1)).1 = true := by decide +kernel
  have hn : acks (run 1) (closed.events later) = [] := by decide +kernel
  have hheld : ∀ before ∈ later.inits, (closed.after before).runs.contains (run 1) := by decide +kernel
  have hprefix (before : List Request) (hb : before <+: later) : (closed.after before).runs.contains (run 1) :=
    hheld before ((List.mem_inits _ _).mpr hb)
  exact ⟨hr, hclose, hn, hprefix, closed_until_dispatch config clock hr hclose hn hprefix⟩

/-- A closed run that was let go for another one is live again once it is watched: the watch has nothing more to say but
does not end, and the run is closed a second time. -/
theorem closed_forgotten :
    let config := { Config.rootedAt "d" with maxOpenRuns := 1 }
    let run (n : Nat) : RunId := ⟨.ofNat n⟩
    let m (n : Nat) : Message := ⟨⟨.ofNat n⟩, ⟨5, 6⟩, .heartbeat⟩
    let opened := (start config .empty ⟨⟨0, 0⟩, 0⟩).after [.dispatch (run 1) [m 1]]
    let now := (opened.close (run 1)).2.after [.dispatch (run 2) [m 2], .watch (run 1)]
    (opened.close (run 1)).1 = true ∧ (now.take 0 9).2.1 = .pending ∧ (now.close (run 1)).1 = true := by
  decide +kernel

end RunLedger.Ledger
