import RunLedger.Sandbox.FileTree
import RunLedger.Sandbox.Pipe
import RunLedger.Sandbox.Signal
import RunLedger.Time

/-!
# Worlds

What the processes of a machine share: the files, what is open, the pipes, the clock, and a record of each process with
its descriptors, the directory it works in, and what it does on signals. A process that ended keeps its outcome in its
record until the process that started it asks for it.

* `outcome?_notify`: a signal that is served changes no outcome.
-/

namespace RunLedger.Sandbox

/-- How the version control program answers: what it prints, and the number it exits with; it kills itself if there is
none. -/
structure GitAnswer where
  output : Bytes
  code : Option Int
  deriving DecidableEq

/-- How a process ended. -/
inductive Outcome where
  | exited (status : Nat)
  | killed (signal : Nat)
  deriving DecidableEq, Repr

/-- What reading and writing goes to. -/
inductive Target where
  | inode (number : Nat)
  | pipe (number : Nat)
  deriving DecidableEq, Repr

/-- What is open, once for all the descriptors that were made of one another. -/
structure OpenFile where
  target : Target
  position : Nat
  /-- Whether every write goes to the end. -/
  appends : Bool
  reads : Bool
  writes : Bool

/-- What stands behind a descriptor. -/
structure Descriptor where
  file : Nat
  /-- Whether it is closed when another program takes the place of this one. -/
  isPrivate : Bool

/-- How far a process is. -/
inductive Standing where
  | running
  | halted
  | ended (outcome : Outcome)
  deriving DecidableEq, Repr

/-- The outcome of a process that is so far. -/
def Standing.outcome? : Standing → Option Outcome
  | .ended outcome => some outcome
  | _ => none

/-- The record of a process. -/
structure Process where
  parent : Nat
  group : Nat
  standing : Standing
  descriptors : OrderedMap Nat Descriptor
  workdir : Nat
  /-- The bits that are left out of the mode of what it makes. -/
  umask : Nat
  /-- How much others go first. -/
  niceness : Int
  ignored : List Nat
  /-- The signals that the process serves itself. -/
  caught : List Nat
  /-- The signals that came and are not served yet, in order. -/
  pending : List Nat

/-- What the processes share. -/
structure World where
  tree : FileTree
  git : Option GitAnswer
  /-- The arguments that the version control program was last called with. -/
  asked : Option (List String)
  files : Array OpenFile
  pipes : Array Pipe
  processes : OrderedMap Nat Process
  /-- The number of the next process. -/
  next : Nat
  /-- The process that runs now. -/
  current : Nat
  /-- The nanoseconds that passed. -/
  clock : Nat
  /-- How often something happened that others may wait for. -/
  changes : Nat

namespace World

/-- The process that was there before all others and takes no notice of anything. -/
def host : Nat := 1

/-- The epoch's distance to the moment when the clock started, in nanoseconds. -/
def birth : Int := FileTree.birth

/-- How finely changes of files are told apart, in nanoseconds. -/
def grain : Nat := 4000000

/-- The time that is noted for a change of a file. -/
def now (w : World) : Int := birth + Int.ofNat (w.clock / grain * grain)

/-- The record of a process. -/
def process? (w : World) (id : Nat) : Option Process := w.processes.get? id

/-- The world with the record of a process changed. -/
def alter (w : World) (id : Nat) (f : Process → Process) : World :=
  match w.processes.get? id with
  | some p => { w with processes := w.processes.set id (f p) }
  | none => w

/-- The world in which something happened that others may wait for. -/
def touched (w : World) : World := { w with changes := w.changes + 1 }

/-- Whether a process can run. -/
def isRunning (w : World) (id : Nat) : Bool := (w.process? id).any fun p => p.standing = .running

/-- Whether a process has not ended. -/
def isAlive (w : World) (id : Nat) : Bool :=
  (w.process? id).any fun p => p.standing = .running || p.standing = .halted

/-- The outcome of a process that ended. -/
def outcome? (w : World) (id : Nat) : Option Outcome := (w.process? id).bind fun p => p.standing.outcome?

/-- The directory in which the current process works. -/
def workdir (w : World) : Nat := ((w.process? w.current).map Process.workdir).getD FileTree.root

/-! ## What is open -/

/-- What stands behind a descriptor of the current process: its place among what is open, and what it is. -/
def open? (w : World) (descriptor : Nat) : Option (Nat × OpenFile) := do
  let p ← w.process? w.current
  let d ← p.descriptors.get? descriptor
  let file ← w.files[d.file]?
  return (d.file, file)

/-- The world with something more open, and its place. -/
def opened (w : World) (file : OpenFile) : Nat × World := (w.files.size, { w with files := w.files.push file })

/-- The lowest number from a number on that is no key, given more steps than there are keys. -/
def freeFrom (m : OrderedMap Nat Descriptor) : Nat → Nat → Nat
  | 0, n => n
  | fuel + 1, n => if m.contains n then freeFrom m fuel (n + 1) else n

/-- The lowest descriptor from a number on that is free. -/
def free (p : Process) (least : Nat) : Nat := freeFrom p.descriptors (p.descriptors.size + 1) least

/-- Whether some descriptor of some process leads to a pipe for a use. -/
def hasEnd (w : World) (pipe : Nat) (use : OpenFile → Bool) : Bool :=
  w.processes.entries.any fun (_, p) =>
    p.descriptors.entries.any fun (_, d) =>
      match w.files[d.file]? with
      | some file => file.target = .pipe pipe && use file
      | none => false

/-- The world with a pipe changed. -/
def alterPipe (w : World) (pipe : Nat) (f : Pipe → Pipe) : World := { w with pipes := w.pipes.modify pipe f }

/-! ## The end of a process, and signals -/

/-- The world after a signal came to a process that may serve it. What halts or ends a process is done elsewhere. -/
def notify (w : World) (id signal : Nat) : World :=
  (w.alter id fun p =>
    if p.caught.contains signal && !p.pending.contains signal then { p with pending := p.pending ++ [signal] }
    else p).touched

/-- Ends a process. Its descriptors are closed, its children belong to the first process from then on, and the process
that started it is told. What ended and belongs to the first process is forgotten. -/
def terminate (w : World) (id : Nat) (outcome : Outcome) : World :=
  match w.process? id with
  | none => w
  | some p =>
    let ended := w.processes.set id { p with standing := .ended outcome, descriptors := .empty }
    let adopted := ended.mapValues fun _ q => if q.parent = id then { q with parent := host } else q
    let kept := adopted.filter fun other q =>
      other = id || q.parent ≠ host || q.standing = .running || q.standing = .halted
    notify { w with processes := if p.parent = host then kept.erase id else kept } p.parent Signal.child

/-- Does to a process what a signal does. Answers whether the process is there. -/
def deliver (w : World) (id signal : Nat) : Bool × World :=
  if id = host then (true, w)
  else
    match w.process? id with
    | none => (false, w)
    | some p =>
      let resumed := fun (w : World) =>
        if signal = Signal.continue && p.standing = .halted then
          match p.pending.find? fun held => !p.caught.contains held with
          | some held => w.terminate id (.killed held)
          | none => (w.alter id fun p => { p with standing := .running }).touched
        else w
      match p.standing with
      | .ended _ => (true, w)
      | _ =>
        if signal = 0 then (true, w)
        else if Signal.isSovereign signal then
          if signal = Signal.kill then (true, w.terminate id (.killed signal))
          else (true, w.alter id fun p => { p with standing := .halted })
        else
          let w := resumed w
          if p.ignored.contains signal then (true, w)
          else if p.caught.contains signal then (true, w.notify id signal)
          else if Signal.isIdle signal then (true, w)
          else if Signal.halts signal then (true, w.alter id fun p => { p with standing := .halted })
          else if p.standing = .halted then
            (true, w.alter id fun p => { p with pending := p.pending ++ [signal] })
          else (true, w.terminate id (.killed signal))

/-- Takes the record of a process that ended away. -/
def forget (w : World) (id : Nat) : World := { w with processes := w.processes.erase id }

/-- A signal that is served changes no outcome. -/
theorem outcome?_notify (w : World) (id other signal : Nat) :
    (w.notify id signal).outcome? other = w.outcome? other := by
  unfold notify touched alter outcome? process?
  cases h : w.processes.get? id with
  | none => rfl
  | some p =>
    simp only [OrderedMap.get?_set]
    by_cases hi : id = other
    · subst hi
      simp only [if_true, h, Option.bind_some]
      split <;> rfl
    · simp [hi]

end World

end RunLedger.Sandbox
