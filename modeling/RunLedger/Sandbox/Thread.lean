import RunLedger.Sandbox.World

/-!
# Threads

What a process does, step by step: it works on the world, lets time pass, waits for something to happen, starts another
process, or is over. Work that gives a value is an `Act`: it is told what is done with the value and answers the thread
that does both.

* `pure_bind`, `bind_pure`, `bind_assoc`: acts follow one another as they are written.
-/

namespace RunLedger.Sandbox

/-- What a process does from now on. -/
inductive Thread where
  | over
  /-- Works on the world at once. -/
  | step (work : World → World × Thread)
  /-- Starts a process, which begins a little later. -/
  | start (id : Nat) (child next : Thread)
  /-- Goes on after some time. -/
  | rest (nanos : Nat) (next : Thread)
  /-- Goes on once something happened, or at a time if there is one. -/
  | stall (limit : Option Nat) (next : Thread)

/-- Work of a process that gives a value, told what follows. -/
def Act (α : Type) : Type := (α → Thread) → Thread

namespace Act

variable {α β γ : Type}

instance : Monad Act where
  pure a := fun next => next a
  bind act f := fun next => act fun a => f a next

theorem pure_bind (a : α) (f : α → Act β) : (pure a >>= f : Act β) = f a := rfl

theorem bind_pure (act : Act α) : (act >>= pure : Act α) = act := rfl

theorem bind_assoc (act : Act α) (f : α → Act β) (g : β → Act γ) :
    (act >>= f >>= g : Act γ) = act >>= fun a => f a >>= g := rfl

/-- Looks at the world. -/
def look (f : World → α) : Act α := fun next => .step fun w =>
  let a := f w
  (w, next a)

/-- Works on the world. -/
def work (f : World → α × World) : Act α := fun next => .step fun w =>
  let (a, w) := f w
  (w, next a)

/-- Changes the world. -/
def change (f : World → World) : Act Unit := fun next => .step fun w => (f w, next ())

/-- Lets time pass. -/
def rest (nanos : Nat) : Act Unit := fun next => .rest nanos (next ())

/-- Waits until something happens, or until a time if there is one. -/
def stall (limit : Option Nat) : Act Unit := fun next => .stall limit (next ())

/-- Does nothing more. -/
def stop : Act α := fun _ => .over

/-- Tries again and again, each time after something happened, until there is an answer. The tries are bounded. -/
def until? : Nat → (World → Option α × World) → Act (Option α)
  | 0, _ => return none
  | tries + 1, f => do
    match ← work f with
    | some a => return some a
    | none =>
      stall none
      until? tries f

/-- More tries than any process lives to make. -/
def manyTries : Nat := 1000000000

/-- Waits until there is an answer. -/
def await (f : World → Option α × World) : Act α := do
  match ← until? manyTries f with
  | some a => return a
  | none => stop

end Act

end RunLedger.Sandbox
