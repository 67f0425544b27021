import RunLedger.Sandbox.Thread

/-!
# Schedules

Which thread goes on when. Every thread is ready at a time; the one that is ready first goes on, and of those that are
ready at once the one that has waited longest. A thread that waits for something to happen is passed over until something
happened. The clock shows when the thread was ready that goes on; in a run of very many turns it goes faster and faster.

* `run_zero`: without any turns nothing happens.
-/

namespace RunLedger.Sandbox

/-- A thread of a process that waits for its turn. -/
structure Task where
  id : Nat
  /-- The time from which on it can go on. -/
  ready : Nat
  /-- If it waits for something to happen: how much had happened then, and the time at which it goes on anyway. -/
  waits : Option (Nat × Option Nat)
  thread : Thread

/-- A world and the threads in it. -/
structure Schedule where
  world : World
  tasks : List Task

namespace Schedule

/-- The nanoseconds until a new process begins. -/
def birthPause : Nat := 150000

/-- When a task goes on, if it can. -/
def readyAt? (w : World) (t : Task) : Option Nat :=
  if !w.isRunning t.id then none
  else
    match t.waits with
    | none => some t.ready
    | some (seen, limit) => if seen ≠ w.changes then some t.ready else limit

/-- The first of the tasks that can go on first, with the time, among tasks behind others. -/
def first? (w : World) : List Task → Option (Nat × Nat × Task) → Nat → Option (Nat × Nat × Task)
  | [], best, _ => best
  | t :: rest, best, place =>
    match readyAt? w t with
    | none => first? w rest best (place + 1)
    | some time =>
      let time := max time w.clock
      match best with
      | some (least, _, _) =>
        first? w rest (if time < least then some (time, place, t) else best) (place + 1)
      | none => first? w rest (some (time, place, t)) (place + 1)

/-- Lets a thread go on until it waits or is over, for so many steps at most, at a pace that makes its rests longer. The
tasks that it leaves come behind others, the latest first. -/
def advance (id pace : Nat) : Nat → World → List Task → Thread → World × List Task
  | 0, w, left, _ => (w, left)
  | _, w, left, .over => (w, left)
  | n + 1, w, left, .step work =>
    let (w, next) := work w
    advance id pace n w left next
  | n + 1, w, left, .start other child next =>
    advance id pace n w (⟨other, w.clock + birthPause, none, child⟩ :: left) next
  | _ + 1, w, left, .rest nanos next => (w, ⟨id, w.clock + nanos * pace, none, next⟩ :: left)
  | _ + 1, w, left, .stall limit next => (w, ⟨id, w.clock, some (w.changes, limit), next⟩ :: left)

/-- The most steps that a thread does in one turn. -/
def maxSteps : Nat := 1000000000

/-- The tasks whose processes can still go on. -/
def living (w : World) (tasks : List Task) : List Task := tasks.filter fun t => w.isAlive t.id

/-- How a run went. -/
inductive Course where
  /-- What was waited for happened. -/
  | arrived
  /-- It did not happen in time, or not at all. -/
  | late
  deriving DecidableEq, Repr

/-- More turns than any run needs. -/
def maxTurns : Nat := 1000000000

/-- The turns after which time passes faster, and again after as many more. What takes so long is taken to have no end of
its own, and is to come to its time limit. -/
def patience : Nat := 50000

/-- How much faster time passes when so many turns are left. -/
def paceOf (turnsLeft : Nat) : Nat := 1 + (maxTurns - turnsLeft) / patience

/-- Lets threads go on until something holds of the world, but not beyond a time. At most so many turns are taken. -/
def run (goal : World → Bool) (limit : Option Nat) : Nat → Schedule → Course × Schedule
  | 0, s => (.late, s)
  | n + 1, ⟨w, tasks⟩ =>
    if goal w then (.arrived, ⟨w, tasks⟩)
    else
      match first? w tasks none 0 with
      | none => (.late, ⟨w, tasks⟩)
      | some (time, place, t) =>
        if limit.any (· ≤ time) then (.late, ⟨w, tasks⟩)
        else
          let (w, left) := advance t.id (paceOf (n + 1)) maxSteps { w with current := t.id, clock := time } [] t.thread
          run goal limit n ⟨w, living w (tasks.eraseIdx place ++ left.reverse)⟩

theorem run_zero (goal : World → Bool) (limit : Option Nat) (s : Schedule) : run goal limit 0 s = (.late, s) := rfl

/-- Nothing is done once what is waited for happened. -/
theorem run_arrived {goal : World → Bool} {limit : Option Nat} {s : Schedule} {n : Nat} (h : goal s.world = true) :
    run goal limit (n + 1) s = (.arrived, s) := by
  rw [run, if_pos h]

end Schedule

end RunLedger.Sandbox
