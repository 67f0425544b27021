import RunLedger.Trace.Context
import RunLedger.Trace.Diff

/-!
# Pipelines

A `Pipeline` is a program that works on tracing contexts: it takes steps, one after the other, and may go on in whatever
way the answers suggest. Contexts have numbers; `0` is the root, every fork gets the next one, and a number that no
context has stands for the root. On the way a pipeline may note things, each with the context as it is at that moment.

`enter` and `span` are what pipelines are mostly made of: they open a span, do something in it and close it however that
ends. `DualPass.run` runs a pipeline in both passes and compares the graphs.

* `run_bind`: a pipeline and what follows it run one after the other.
-/

namespace RunLedger

/-- A step on a context. -/
inductive TraceStep where
  | push (context : Nat) (parent id : String)
  | pop (context : Nat) (parent id : String) (outcome : Outcome)
  | fork (context : Nat)
  /-- Asks for the name that spans are opened in. -/
  | current (context : Nat)
  /-- Asks whether this is the discovery pass. -/
  | analysing
  deriving DecidableEq

/-- What a step is answered with. -/
def TraceStep.Answer : TraceStep → Type
  | .push .. => Except TraceError Unit
  | .pop .. => Except TraceError Unit
  | .fork _ => Nat
  | .current _ => String
  | .analysing => Bool

/-- A program that takes steps, notes `ν`s and gives an `α`. -/
inductive Pipeline (ν α : Type) where
  | done (a : α)
  | step (s : TraceStep) (next : s.Answer → Pipeline ν α)
  | note (context : Nat) (n : ν) (next : Pipeline ν α)

/-- How a body ended. -/
inductive Exit (ε α : Type) where
  | returned (a : α)
  | failed (e : ε)
  | panicked

/-- Whether a body did not return. -/
def Exit.isFailure {ε α : Type} : Exit ε α → Bool
  | .returned _ => false
  | _ => true

/-- Whether a body was cut off. -/
def Exit.isPanic {ε α : Type} : Exit ε α → Bool
  | .panicked => true
  | _ => false

namespace Pipeline

variable {ν α β ε : Type}

/-- A pipeline and what follows its result. -/
def bind : Pipeline ν α → (α → Pipeline ν β) → Pipeline ν β
  | .done a, f => f a
  | .step s next, f => .step s fun r => (next r).bind f
  | .note c n next, f => .note c n (next.bind f)

instance : Monad (Pipeline ν) := { pure := .done, bind }

def push (c : Nat) (parent id : String) : Pipeline ν (Except TraceError Unit) := .step (.push c parent id) .done
def pop (c : Nat) (parent id : String) (outcome : Outcome) : Pipeline ν (Except TraceError Unit) :=
  .step (.pop c parent id outcome) .done
def fork (c : Nat) : Pipeline ν Nat := .step (.fork c) .done
def current (c : Nat) : Pipeline ν String := .step (.current c) .done
def analysing : Pipeline ν Bool := .step .analysing .done
def log (c : Nat) (n : ν) : Pipeline ν Unit := .note c n (.done ())

/-- Opens a span where the context is, does something in it and closes it, as failed if the body says so or was cut off.
The body is not done if the span cannot be opened. -/
def enter (c : Nat) (id : String) (body : Pipeline ν (Bool × Exit ε α)) : Pipeline ν (Except TraceError (Exit ε α)) := do
  let parent ← current c
  match ← push c parent id with
  | .error e => return .error e
  | .ok () =>
    let (marked, exit) ← body
    let _ ← pop c parent id (if marked || exit.isPanic then .error else .success)
    return .ok exit

/-- Does something in a span that counts as failed if the body fails. -/
def span (c : Nat) (id : String) (refused : TraceError → ε) (body : Pipeline ν (Exit ε α)) : Pipeline ν (Exit ε α) := do
  match ← enter c id (body >>= fun exit => return (exit.isFailure, exit)) with
  | .error e => return .failed (refused e)
  | .ok exit => return exit

end Pipeline

/-- What was noted, with the context at the time and the number of messages so far. -/
structure Note (ν : Type) where
  label : ν
  context : Context
  emitted : Nat

/-- Notes with the messages that were emitted between each and the one before, and the messages after the last, of which
the first were dealt with before. -/
def Note.between {ν : Type} (emitted : List Message) (seen : Nat) :
    List (Note ν) → List (Note ν × List Message) × List Message
  | [] => ([], emitted.drop seen)
  | n :: notes =>
    let (rest, late) := between emitted n.emitted notes
    ((n, (emitted.take n.emitted).drop seen) :: rest, late)

/-- A pass as it goes on. -/
structure Tracing (ν : Type) where
  tracer : Tracer
  /-- The context of number 0. -/
  root : Context
  /-- The contexts that were forked, in order. -/
  forks : List Context
  /-- What was noted, the latest first. -/
  notes : List (Note ν)

namespace Tracing

variable {ν α β ε : Type}

/-- A pass at its start. -/
def start (t : Tracer) : Tracing ν := ⟨t, .root, [], []⟩

/-- The context of a number. -/
def context (s : Tracing ν) (c : Nat) : Context := (s.root :: s.forks)[c]?.getD s.root

/-- The pass with the context of a number changed. -/
def withContext (s : Tracing ν) (c : Nat) (ctx : Context) : Tracing ν :=
  if 0 < c ∧ c ≤ s.forks.length then { s with forks := s.forks.set (c - 1) ctx } else { s with root := ctx }

/-- Takes a step. -/
def perform (s : Tracing ν) : (step : TraceStep) → step.Answer × Tracing ν
  | .push c parent id =>
    let (r, ctx, tracer) := (s.context c).push parent id s.tracer
    (r, { s with tracer }.withContext c ctx)
  | .pop c parent id outcome =>
    let (r, ctx, tracer) := (s.context c).pop parent id outcome s.tracer
    (r, { s with tracer }.withContext c ctx)
  | .fork c => (s.forks.length + 1, { s with forks := s.forks ++ [(s.context c).fork] })
  | .current c => (nameOf (s.context c).current?, s)
  | .analysing => (decide (s.tracer.pass = .discovery), s)

/-- The pass with one more note. -/
def noted (s : Tracing ν) (c : Nat) (n : ν) : Tracing ν :=
  { s with notes := ⟨n, s.context c, s.tracer.emitted.length⟩ :: s.notes }

/-- Runs a pipeline. -/
def run (s : Tracing ν) : Pipeline ν α → α × Tracing ν
  | .done a => (a, s)
  | .step op next => (s.perform op).2.run (next (s.perform op).1)
  | .note c n next => (s.noted c n).run next

/-- A pipeline and what follows it run one after the other. -/
theorem run_bind (s : Tracing ν) (p : Pipeline ν α) (f : α → Pipeline ν β) :
    s.run (p.bind f) = (s.run p).2.run (f (s.run p).1) := by
  induction p generalizing s with
  | done a => rfl
  | step op next ih => exact ih _ _
  | note c n next ih => exact ih _

end Tracing

/-- The outcome of two passes. -/
structure PassReport (α : Type) where
  /-- The value of the execution pass. -/
  output : α
  discovered : OpGraph
  executed : OpGraph
  diff : StructureDiff

/-- What two passes leave behind: how they ended, the last state of each that was run, and a report if both returned. -/
structure DualRun (ν ε α : Type) where
  discovery : Tracing ν
  execution : Option (Tracing ν)
  result : Exit ε (PassReport α)

namespace DualRun

variable {ν ε α : Type} (r : DualRun ν ε α)

/-- The last state of the last pass that was run. -/
def last : Tracing ν := r.execution.getD r.discovery

/-- The messages of both passes in the order of emission. -/
def messages : List Message := r.last.tracer.emitted

/-- What was noted in both passes, in order. -/
def notes : List (Note ν) := r.discovery.notes.reverse ++ (r.execution.elim [] (·.notes.reverse))

end DualRun

/-- Runs a pipeline in the discovery pass and then, if that returned, in the execution pass. Messages go on from those
that were there before. -/
def DualPass.run {ν ε α : Type} (emitted : List Message) (clock : Clock) (p : Pipeline ν (Exit ε α)) : DualRun ν ε α :=
  match (Tracing.start (.start .discovery emitted clock)).run p with
  | (.failed e, d) => ⟨d, none, .failed e⟩
  | (.panicked, d) => ⟨d, none, .panicked⟩
  | (.returned _, d) =>
    match (Tracing.start (.start .execution d.tracer.emitted d.tracer.clock)).run p with
    | (.failed e, x) => ⟨d, some x, .failed e⟩
    | (.panicked, x) => ⟨d, some x, .panicked⟩
    | (.returned output, x) =>
      let diff := StructureDiff.between d.tracer.graph x.tracer.graph
      ⟨d, some x, .returned ⟨output, d.tracer.graph, x.tracer.graph, diff⟩⟩

end RunLedger
