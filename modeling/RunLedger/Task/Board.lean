import RunLedger.OrderedMap
import RunLedger.Task.Basic

/-!
# The task board

The latest state of every task, in the order in which the tasks were first seen. The first snapshot of a task is taken
as it is; every later one has to be a step of the lifecycle, or it is refused and changes nothing.
-/

namespace RunLedger

/-- The latest state of every task seen. -/
structure TaskBoard where
  tasks : OrderedMap String TaskState

namespace TaskBoard

/-- Nothing seen. -/
def empty : TaskBoard := ⟨.empty⟩

/-- The state of a task. -/
def state? (b : TaskBoard) (id : String) : Option TaskState := b.tasks.get? id

/-- The board after a snapshot. -/
def apply (b : TaskBoard) (t : Task) : Except TaskState.TransitionError TaskBoard :=
  match b.state? t.id with
  | some s => (s.transition t.state).map fun s' => ⟨b.tasks.set t.id s'⟩
  | none => .ok ⟨b.tasks.set t.id t.state⟩

/-- The board after a snapshot that may be refused. -/
def offer (b : TaskBoard) (t : Task) : TaskBoard := (b.apply t).toOption.getD b

/-- The tasks in the order of their first snapshots. -/
def toList (b : TaskBoard) : List (String × TaskState) := b.tasks.entries

/-- The number of tasks. -/
def size (b : TaskBoard) : Nat := b.tasks.size

/-- Whether every task has come to an end. -/
def isSettled (b : TaskBoard) : Bool := b.tasks.values.all TaskState.isTerminal

end TaskBoard

end RunLedger
