/-!
# Tasks

A task is pending, then initiated, then completed or failed; the last two states are final. A `Task` is a snapshot: the
path that identifies it, a description and its state at the time.

* `rank_of_canBecome`: every step goes up by one, so a task takes at most two.
-/

namespace RunLedger

/-- How far a task has come. -/
inductive TaskState where
  /-- Discovered, not started. -/
  | pending
  /-- Running. -/
  | initiated
  /-- Ended well. -/
  | completed
  /-- Ended with an error. -/
  | error
  deriving DecidableEq, Repr, Inhabited

namespace TaskState

/-- The shown form. -/
def text : TaskState → String
  | pending => "pending"
  | initiated => "initiated"
  | completed => "completed"
  | error => "error"

/-- Whether no step leads out of a state. -/
def isTerminal : TaskState → Bool
  | completed => true
  | error => true
  | _ => false

/-- Whether a task can go from one state to another in one step. -/
def canBecome : TaskState → TaskState → Bool
  | pending, initiated => true
  | initiated, completed => true
  | initiated, error => true
  | _, _ => false

/-- A step that the lifecycle does not allow. -/
structure TransitionError where
  source : TaskState
  target : TaskState
  deriving DecidableEq, Repr

/-- The wording of a refusal. -/
def TransitionError.message (e : TransitionError) : String :=
  s!"Invalid task transition {e.source.text} -> {e.target.text}"

/-- The state after a step, if the lifecycle allows it. -/
def transition (s t : TaskState) : Except TransitionError TaskState :=
  if s.canBecome t then .ok t else .error ⟨s, t⟩

/-- Steps taken from the start. -/
def rank : TaskState → Nat
  | pending => 0
  | initiated => 1
  | completed => 2
  | error => 2

theorem rank_of_canBecome {s t : TaskState} (h : s.canBecome t) : t.rank = s.rank + 1 := by
  cases s <;> cases t <;> first | rfl | cases h

/-- A state is final exactly when no step leads out of it. -/
theorem isTerminal_iff {s : TaskState} : s.isTerminal ↔ ∀ t, s.canBecome t = false := by
  constructor
  · intro h t; cases s <;> cases t <;> first | rfl | cases h
  · intro h
    cases s with
    | pending => exact absurd (h .initiated) (by decide)
    | initiated => exact absurd (h .completed) (by decide)
    | completed => rfl
    | error => rfl

end TaskState

/-- A snapshot of a task. -/
structure Task where
  /-- The path of the operation that the task stands for. -/
  id : String
  description : String
  state : TaskState
  deriving DecidableEq, Repr

namespace Task

/-- A task that is only discovered. -/
def new (id description : String) : Task := ⟨id, description, .pending⟩

/-- The task one step further, if the lifecycle allows it. -/
def advance (t : Task) (next : TaskState) : Except TaskState.TransitionError Task :=
  (t.state.transition next).map fun s => { t with state := s }

end Task

end RunLedger
