import Mathlib.Data.List.Chain
import RunLedger.Task.Board

/-!
# Boards of snapshots

A board takes the snapshots of all tasks as they come, mixed in any way, and leaves out those that it refuses. What it
says of one task comes from the snapshots of that task alone: its state is their fold (`TaskState.follow`,
`TaskBoard.state?_after`), and which of them are accepted does not depend on the others (`TaskBoard.filter_accepted`).
Those that are accepted go along the lifecycle (`TaskState.Step`, `TaskBoard.chain_accepted`), which is at most three
states long.

* `TaskBoard.board_after`: the board after any snapshots.
-/

namespace RunLedger

namespace TaskState

/-- The steps of the lifecycle. -/
inductive Step : TaskState → TaskState → Prop
  | initiate : Step pending initiated
  | complete : Step initiated completed
  | fail : Step initiated error

theorem canBecome_iff {s t : TaskState} : s.canBecome t ↔ Step s t := by
  constructor
  · intro h
    cases s <;> cases t <;> first | constructor | cases h
  · rintro (_ | _ | _) <;> rfl

theorem Step.ne {s t : TaskState} (h : Step s t) : s ≠ t := by
  rintro rfl
  cases h

theorem isTerminal_iff_ended {s : TaskState} : s.isTerminal ↔ s = .completed ∨ s = .error := by
  cases s <;> simp [isTerminal]

/-- What a task may be seen in next, if it was seen in a state or not at all. -/
def Follows (seen : Option TaskState) (next : TaskState) : Prop := ∀ s, seen = some s → Step s next

/-- The state of a task after one more snapshot of it. -/
def follow : Option TaskState → TaskState → Option TaskState
  | none, next => some next
  | some s, next => if s.canBecome next then some next else some s

theorem follow_of_follows {seen : Option TaskState} {next : TaskState} (h : Follows seen next) :
    follow seen next = some next := by
  cases seen with
  | none => rfl
  | some s => rw [follow, if_pos (canBecome_iff.mpr (h s rfl))]

theorem follow_of_not_follows {seen : Option TaskState} {next : TaskState} (h : ¬Follows seen next) :
    follow seen next = seen := by
  cases seen with
  | none => exact absurd nofun h
  | some s =>
    have hstep : ¬s.canBecome next := fun hs => h fun s' hs' => Option.some.inj hs' ▸ canBecome_iff.mp hs
    rw [follow, if_neg hstep]

/-- The lifecycle is at most three states long. -/
theorem length_le_of_chain {states : List TaskState} (h : states.IsChain Step) : states.length ≤ 3 := by
  rcases states with _ | ⟨a, _ | ⟨b, _ | ⟨c, _ | ⟨d, rest⟩⟩⟩⟩
  · exact Nat.zero_le _
  · exact Nat.le_add_left 1 2
  · exact Nat.le_add_left 2 1
  · exact Nat.le_refl _
  · -- the third state is final
    simp only [List.isChain_cons_cons] at h
    obtain ⟨hab, hbc, hcd, -⟩ := h
    cases hab <;> cases hbc <;> cases hcd

end TaskState

namespace TaskBoard

open TaskState

/-- The board after some snapshots, those left out that it refuses. -/
def after (b : TaskBoard) (ts : List Task) : TaskBoard := ts.foldl offer b

/-- The snapshots that are accepted, in order. -/
def accepted (b : TaskBoard) : List Task → List Task
  | [] => []
  | t :: ts =>
    match b.apply t with
    | .ok b' => t :: b'.accepted ts
    | .error _ => b.accepted ts

variable {b b' : TaskBoard} {t : Task} {id : String}

/-! ## One snapshot -/

/-- A snapshot of a new task, or of the next step of a task, is taken. -/
theorem apply_of_step (h : ∀ state, b.state? t.id = some state → state.canBecome t.state) :
    b.apply t = .ok ⟨b.tasks.set t.id t.state⟩ := by
  rw [apply]
  cases hstate : b.state? t.id with
  | none => rfl
  | some state =>
    simp only [TaskState.transition, h state hstate, if_true]
    rfl

theorem apply_of_follows (h : Follows (b.state? t.id) t.state) : b.apply t = .ok ⟨b.tasks.set t.id t.state⟩ :=
  apply_of_step fun state hs => canBecome_iff.mpr (h state hs)

theorem apply_of_not_follows (h : ¬Follows (b.state? t.id) t.state) : ∃ e, b.apply t = .error e := by
  rw [apply]
  cases hstate : b.state? t.id with
  | none =>
    rw [hstate] at h
    exact absurd nofun h
  | some state =>
    have hstep : ¬state.canBecome t.state := by
      intro hs
      refine h fun s hs' => ?_
      rw [hstate] at hs'
      exact Option.some.inj hs' ▸ canBecome_iff.mp hs
    exact ⟨⟨state, t.state⟩, by simp only [TaskState.transition, if_neg hstep]; rfl⟩

theorem state?_set (b : TaskBoard) (id other : String) (state : TaskState) :
    (TaskBoard.mk (b.tasks.set id state)).state? other = if id = other then some state else b.state? other :=
  OrderedMap.get?_set b.tasks id other state

theorem mem_keys_of_state? {path : String} {state : TaskState} (h : b.state? path = some state) : path ∈ b.tasks.keys :=
  List.mem_map.mpr ⟨_, OrderedMap.get?_eq_some_iff.mp h, rfl⟩

theorem state?_eq_none_iff {path : String} : b.state? path = none ↔ path ∉ b.tasks.keys := OrderedMap.get?_eq_none_iff

theorem offer_of_ok (h : b.apply t = .ok b') : b.offer t = b' := by
  rw [offer, h]
  rfl

theorem offer_of_error {e : TransitionError} (h : b.apply t = .error e) : b.offer t = b := by
  rw [offer, h]
  rfl

/-- A snapshot shows in the state of its own task only. -/
theorem state?_offer (b : TaskBoard) (t : Task) (id : String) :
    (b.offer t).state? id = if t.id = id then follow (b.state? id) t.state else b.state? id := by
  by_cases h : Follows (b.state? t.id) t.state
  · rw [offer_of_ok (apply_of_follows h), state?_set]
    split
    · rename_i hid
      rw [← hid, follow_of_follows h]
    · rfl
  · obtain ⟨e, he⟩ := apply_of_not_follows h
    rw [offer_of_error he]
    split
    · rename_i hid
      rw [← hid, follow_of_not_follows h]
    · rfl

theorem keys_offer (b : TaskBoard) (t : Task) :
    (b.offer t).tasks.keys = if t.id ∈ b.tasks.keys then b.tasks.keys else b.tasks.keys ++ [t.id] := by
  by_cases h : Follows (b.state? t.id) t.state
  · rw [offer_of_ok (apply_of_follows h), OrderedMap.keys_set]
  · obtain ⟨e, he⟩ := apply_of_not_follows h
    have hmem : t.id ∈ b.tasks.keys := by
      apply Decidable.byContradiction
      intro hnone
      rw [state?_eq_none_iff.mpr hnone] at h
      exact h nofun
    rw [offer_of_error he, if_pos hmem]

/-- **A snapshot is refused exactly if it changes nothing.** -/
theorem apply_error_iff : (∃ e, b.apply t = .error e) ↔ b.offer t = b := by
  constructor
  · rintro ⟨e, he⟩
    exact offer_of_error he
  · intro hsame
    apply apply_of_not_follows
    intro h
    -- an accepted snapshot brings its task to a state that it was not in
    have hstate := state?_offer b t t.id
    rw [hsame, if_pos rfl, follow_of_follows h] at hstate
    exact (h _ hstate).ne rfl

theorem apply_ok_iff : (∃ b', b.apply t = .ok b') ↔ Follows (b.state? t.id) t.state := by
  constructor
  · rintro ⟨b', hb'⟩
    apply Classical.byContradiction
    intro h
    obtain ⟨e, he⟩ := apply_of_not_follows h
    rw [hb'] at he
    cases he
  · intro h
    exact ⟨_, apply_of_follows h⟩

/-! ## Many snapshots -/

/-- The state of a task is the fold of its snapshots. -/
theorem state?_after (b : TaskBoard) (ts : List Task) (id : String) :
    (b.after ts).state? id = ((ts.filter (·.id = id)).map Task.state).foldl follow (b.state? id) := by
  induction ts generalizing b with
  | nil => rfl
  | cons t ts ih =>
    rw [after, List.foldl_cons, ← after, ih, state?_offer]
    by_cases h : t.id = id
    · rw [if_pos h, List.filter_cons_of_pos (by simpa using h)]
      rfl
    · rw [if_neg h, List.filter_cons_of_neg (by simpa using h)]

/-- Tasks come to a board in the order of their first snapshots. -/
theorem keys_after (ts : List Task) : (empty.after ts).tasks.keys = (ts.map Task.id).eraseDups :=
  @eraseDups_of_foldl _ _ _ _ offer (fun b => b.tasks.keys) Task.id keys_offer empty [] rfl ts

theorem accepted_of_follows (h : Follows (b.state? t.id) t.state) (ts : List Task) :
    b.accepted (t :: ts) = t :: (b.offer t).accepted ts := by
  rw [accepted, offer, apply_of_follows h]
  rfl

theorem accepted_of_not_follows (h : ¬Follows (b.state? t.id) t.state) (ts : List Task) :
    b.accepted (t :: ts) = (b.offer t).accepted ts := by
  obtain ⟨e, he⟩ := apply_of_not_follows h
  rw [accepted, offer, he]
  rfl

/-- **Which snapshots of a task are accepted depends on them alone.** -/
theorem filter_accepted (h : b.state? id = b'.state? id) (ts : List Task) :
    (b.accepted ts).filter (·.id = id) = b'.accepted (ts.filter (·.id = id)) := by
  induction ts generalizing b b' with
  | nil => rfl
  | cons t ts ih =>
    by_cases hid : t.id = id
    · have hself (c : TaskBoard) : (c.offer t).state? id = follow (c.state? id) t.state := by
        rw [state?_offer, if_pos hid]
      have hnext : (b.offer t).state? id = (b'.offer t).state? id := by rw [hself, hself, h]
      rw [List.filter_cons_of_pos (by simpa using hid)]
      subst hid
      by_cases hf : Follows (b.state? t.id) t.state
      · rw [accepted_of_follows hf, accepted_of_follows (h ▸ hf), List.filter_cons_of_pos (by simp), ih hnext]
      · rw [accepted_of_not_follows hf, accepted_of_not_follows (h ▸ hf), ih hnext]
    · have hnext : (b.offer t).state? id = b'.state? id := by rw [state?_offer, if_neg hid, h]
      rw [List.filter_cons_of_neg (by simpa using hid), ← ih hnext]
      by_cases hf : Follows (b.state? t.id) t.state
      · rw [accepted_of_follows hf, List.filter_cons_of_neg (by simpa using hid)]
      · rw [accepted_of_not_follows hf]

/-- The snapshots of one task that are accepted. -/
def acceptedOf (b : TaskBoard) (ts : List Task) (id : String) : List Task := (b.accepted ts).filter (·.id = id)

/-- What is accepted of a task, if one more snapshot comes first. -/
theorem acceptedOf_cons (b : TaskBoard) (t : Task) (ts : List Task) (id : String) :
    (b.acceptedOf (t :: ts) id = t :: (b.offer t).acceptedOf ts id ∧ t.id = id ∧ Follows (b.state? id) t.state) ∨
      (b.acceptedOf (t :: ts) id = (b.offer t).acceptedOf ts id ∧ (b.offer t).state? id = b.state? id) := by
  by_cases hf : Follows (b.state? t.id) t.state
  · rw [acceptedOf, accepted_of_follows hf]
    by_cases hid : t.id = id
    · subst hid
      exact .inl ⟨List.filter_cons_of_pos (by simp), rfl, hf⟩
    · exact .inr ⟨List.filter_cons_of_neg (by simpa using hid), by rw [state?_offer, if_neg hid]⟩
  · obtain ⟨e, he⟩ := apply_of_not_follows hf
    exact .inr ⟨by rw [acceptedOf, accepted_of_not_follows hf]; rfl, by rw [offer_of_error he]⟩

/-- **What is accepted of a task goes along the lifecycle,** from where the task is. -/
theorem chain_accepted (b : TaskBoard) (ts : List Task) (id : String) :
    ((b.state? id).toList ++ (b.acceptedOf ts id).map Task.state).IsChain Step := by
  induction ts generalizing b with
  | nil =>
    cases b.state? id with
    | none => exact .nil
    | some state => exact .singleton state
  | cons t ts ih =>
    have ih := ih (b.offer t)
    rcases b.acceptedOf_cons t ts id with ⟨hcons, hid, hf⟩ | ⟨hsame, hstate⟩
    · rw [state?_offer, if_pos hid, follow_of_follows hf] at ih
      rw [hcons, List.map_cons]
      cases hs : b.state? id with
      | none => exact ih
      | some state => exact .cons_cons (hf state hs) ih
    · rwa [hsame, ← hstate]

/-- The state of a task is that of its last accepted snapshot. -/
theorem state?_of_accepted (b : TaskBoard) (ts : List Task) (id : String) :
    (b.after ts).state? id = ((b.acceptedOf ts id).getLast?.map Task.state).or (b.state? id) := by
  induction ts generalizing b with
  | nil => rfl
  | cons t ts ih =>
    rw [after, List.foldl_cons, ← after, ih]
    rcases b.acceptedOf_cons t ts id with ⟨hcons, hid, hf⟩ | ⟨hsame, hstate⟩
    · rw [state?_offer, if_pos hid, follow_of_follows hf, hcons, List.getLast?_cons]
      cases ((b.offer t).acceptedOf ts id).getLast? <;> rfl
    · rw [hsame, hstate]

/-- A task that has ended stays as it is. -/
theorem state?_after_of_terminal {state : TaskState} (h : b.state? id = some state) (hend : state.isTerminal)
    (ts : List Task) : (b.after ts).state? id = some state := by
  induction ts generalizing b with
  | nil => exact h
  | cons t ts ih =>
    apply ih
    rw [state?_offer, h]
    split
    · rw [follow, if_neg (by rw [isTerminal_iff.mp hend]; nofun)]
    · rfl

theorem isSettled_iff : b.isSettled ↔ ∀ id state, b.state? id = some state → state.isTerminal := by
  rw [isSettled, List.all_eq_true]
  constructor
  · intro h id state hs
    exact h state (List.mem_map.mpr ⟨_, OrderedMap.get?_eq_some_iff.mp hs, rfl⟩)
  · intro h state hstate
    obtain ⟨e, he, rfl⟩ := List.mem_map.mp hstate
    exact h e.1 e.2 (OrderedMap.get?_eq_some_iff.mpr he)

theorem size_eq (b : TaskBoard) : b.size = b.tasks.keys.length := (List.length_map _).symm

/-- **A board is a fold for each task.** Let any snapshots of any tasks come to an empty board. The next one is refused
exactly if it changes nothing, and accepted exactly if it is the first of its task or the next step of the lifecycle. The
state of a task is that of the last snapshot of it that was accepted; it and they are the same as if the snapshots of that
task had come alone. What was accepted of a task goes along the lifecycle and is at most three snapshots, and a task that
has ended stays as it is, whatever comes. Tasks are listed in the order of their first snapshots, each once, and the board
is settled exactly if every task on it has ended. -/
theorem board_after (ts : List Task) :
    let b := empty.after ts
    (∀ t, ((∃ e, b.apply t = .error e) ↔ b.offer t = b) ∧
      ((∃ b', b.apply t = .ok b') ↔ t.id ∉ ts.map Task.id ∨ ∃ s, b.state? t.id = some s ∧ Step s t.state)) ∧
    (∀ id, b.state? id = (empty.acceptedOf ts id).getLast?.map Task.state ∧
      b.state? id = (empty.after (ts.filter (·.id = id))).state? id ∧
      empty.acceptedOf ts id = empty.accepted (ts.filter (·.id = id)) ∧
      ((empty.acceptedOf ts id).map Task.state).IsChain Step ∧ (empty.acceptedOf ts id).length ≤ 3 ∧
      ∀ state, b.state? id = some state → state.isTerminal →
        ∀ more, (empty.after (ts ++ more)).state? id = some state) ∧
    b.toList.map Prod.fst = (ts.map Task.id).eraseDups ∧ b.size = (ts.map Task.id).eraseDups.length ∧
      (∀ id state, (id, state) ∈ b.toList ↔ b.state? id = some state) ∧
      (b.isSettled ↔ ∀ id state, b.state? id = some state → state = .completed ∨ state = .error) := by
  intro b
  have hkeys : b.tasks.keys = (ts.map Task.id).eraseDups := keys_after ts
  have hseen (id : String) : b.state? id = none ↔ id ∉ ts.map Task.id := by
    rw [state?_eq_none_iff, hkeys, List.mem_eraseDups]
  refine ⟨fun t => ⟨apply_error_iff, ?_⟩, fun id => ?_, hkeys, ?_, ?_, ?_⟩
  · rw [apply_ok_iff, ← hseen]
    cases b.state? t.id with
    | none => simp [Follows]
    | some s => simp [Follows]
  · have hchain := chain_accepted empty ts id
    refine ⟨?_, ?_, filter_accepted rfl ts, hchain, ?_, ?_⟩
    · rw [state?_of_accepted]
      exact Option.or_none
    · rw [state?_after, state?_after, List.filter_filter]
      simp
    · have hlength := length_le_of_chain hchain
      rw [List.length_append, List.length_map] at hlength
      omega
    · intro state hstate hend more
      rw [after, List.foldl_append]
      exact state?_after_of_terminal hstate hend more
  · rw [size_eq, hkeys]
  · intro id state
    exact OrderedMap.get?_eq_some_iff.symm
  · simp only [isSettled_iff, isTerminal_iff_ended]

-- two tasks, mixed: one is seen again as it was before, the other was begun when it was first seen
example :
    let ts : List Task := [⟨"a", "", .pending⟩, ⟨"b", "", .initiated⟩, ⟨"a", "", .initiated⟩, ⟨"a", "", .pending⟩,
      ⟨"b", "", .error⟩, ⟨"b", "", .completed⟩]
    (empty.after ts).toList = [("a", .initiated), ("b", .error)] ∧ (empty.acceptedOf ts "b").length = 2 ∧
      (empty.after ts).isSettled = false := by decide

end TaskBoard

end RunLedger
