import RunLedger.Guest.System
import RunLedger.Sandbox.Loader
import RunLedger.Sandbox.Schedule

/-!
# A machine in miniature

A machine with files and the programs of a small system: a shell, what shell scripts mostly use, and a version control
program that answers as it was set up. Its processes take turns on a clock of their own: time passes when they start,
when they sleep, and a little with whatever they do. A process that runs into its allowance is killed where it stands;
those that it started go on, also later, whenever the clock does.

* `run_zero_allowance`: a process that is given no time does nothing.
-/

namespace RunLedger.Sandbox

/-- The state of the machine: what its processes share, and those that go on. -/
abbrev State := Schedule

/-- The directories in which programs are looked for. -/
def searchPath : String := "/opt/bin:/usr/local/sbin:/usr/local/bin:/usr/sbin:/usr/bin:/sbin:/bin"

/-- The home directory. -/
def home : String := "/root"

/-- The directories of a machine on which nothing was done, with their modes. -/
def directories : List (String × Nat) :=
  (["/usr/bin", "/usr/sbin", "/usr/lib", "/usr/local/bin", "/usr/local/sbin", "/usr/share", "/opt/bin", "/dev", "/etc",
    "/home", "/proc", "/run", "/srv", "/sys", "/var"].map fun path => (path, 0o755)) ++
    [("/root", 0o700), ("/tmp", 0o1777), ("/var/tmp", 0o1777)]

/-- The links of a machine on which nothing was done. -/
def links : List (String × String) := [("/bin", "usr/bin"), ("/sbin", "usr/sbin"), ("/lib", "usr/lib")]

/-- The devices of a machine. Those of the descriptors of a process are there by name. -/
def devices : List (String × Device) :=
  [("null", .null), ("zero", .zero), ("full", .full), ("random", .random), ("urandom", .random), ("tty", .terminal),
    ("stdin", .null), ("stdout", .null), ("stderr", .null)]

/-- The list of users, in a file. -/
def userFile : String :=
  String.join (Program.users.map fun (name, user, group) =>
    name ++ ":x:" ++ Text.Decimal.text user ++ ":" ++ Text.Decimal.text group ++ ":" ++ name ++ ":" ++
      (if user = 0 then home ++ ":/bin/bash" else "/nonexistent:/usr/sbin/nologin") ++ "\n")

/-- A tree with a directory of a mode. -/
def withDirectory (t : FileTree) (path : String) (mode : Nat) : FileTree :=
  let (n, t) := t.deepen FileTree.root (FileTree.namesOf path)
  t.alter n fun i => { i with mode }

/-- The files of a machine on which nothing was done. -/
def bareTree : FileTree :=
  let t := directories.foldl (fun t (path, mode) => withDirectory t path mode) FileTree.bare
  let t := links.foldl (fun t (path, target) => t.place path 0o777 (.link target)) t
  let t := Loader.standardPrograms.foldl (fun t (name, _) =>
    t.place ("/usr/bin/" ++ name) 0o755 (.file (Executable.fileOf name))) t
  let t := devices.foldl (fun t (name, kind) => t.place ("/dev/" ++ name) 0o666 (.device kind)) t
  t.place "/etc/passwd" 0o644 (.file (Octets.array userFile))

/-- The record of the process that was there before all others. -/
def hostRecord : Process := ⟨0, World.host, .running, .empty, FileTree.root, 0, 0, [], [], []⟩

namespace State

/-- The number of the first process. -/
def firstId : Nat := 100

/-- A machine with files, on which nothing runs. -/
def ofTree (tree : FileTree) : State where
  world := {
    tree
    git := none
    asked := none
    files := #[]
    pipes := #[]
    processes := OrderedMap.empty.set World.host hostRecord
    next := firstId
    current := World.host
    clock := 0
    changes := 0 }
  tasks := []

/-- The machine with a version control program that answers so. -/
def install (answer : GitAnswer) (s : State) : State :=
  { s with world := { s.world with
    tree := s.world.tree.place "/opt/bin/git" 0o755 (.file (Executable.fileOf "git")), git := some answer } }

/-- The machine, whose version control program was not called yet. -/
def unasked (s : State) : State := { s with world := { s.world with asked := none } }

/-- The arguments that the version control program was last called with. -/
def asked (s : State) : Option (List String) := s.world.asked.map fun words => words.map Octets.toText

end State

/-- Whether a text can be handed to the system. -/
def isPlain (s : String) : Bool := !s.toList.contains '\x00'

/-- How an outcome counts as an ending. -/
def endingOf : Outcome → Ending
  | .exited status => .exited (Int32.ofNat (status % 256))
  | .killed _ => .signalled

/-- The environment of the programs that the machine starts. -/
def environment : Environment := (OrderedMap.empty.set "PATH" searchPath).set "HOME" home

/-- The nanoseconds from the end of a process until something else can be asked of the machine. -/
def pause : Nat := 500000

/-- What the machine keeps of a process that it started. -/
structure Started where
  id : Nat
  /-- The pipe that its output goes into, if that is kept. -/
  pipe? : Option Nat

/-- The world with something open, and a descriptor for it. -/
def descriptorOf (target : Target) (reads writes : Bool) (w : World) : Descriptor × World :=
  let (file, w) := w.opened ⟨target, 0, false, reads, writes⟩
  (⟨file, false⟩, w)

/-- Starts a program in a directory. Its output goes into a pipe or nowhere. -/
def start (workdir : Nat) (path : String) (argv : List String) (keepsOutput : Bool) (s : State) : Started × State :=
  let w := s.world
  let null := (w.tree.find FileTree.root "/dev/null" true).toOption.getD FileTree.root
  let (input, w) := descriptorOf (.inode null) true false w
  let (nowhere, w) := descriptorOf (.inode null) false true w
  let number := w.pipes.size
  let (output, w) := if !keepsOutput then (nowhere, w) else
    let w := { w with pipes := w.pipes.push Pipe.empty }
    let (reader, w) := descriptorOf (.pipe number) true false w
    let w := w.alter World.host fun p => { p with descriptors := p.descriptors.set 0 reader }
    descriptorOf (.pipe number) false true w
  let descriptors := ((OrderedMap.empty.set 0 input).set 1 output).set 2 nowhere
  let id := w.next
  let p : Process := ⟨0, World.host, .running, descriptors, workdir, 0o022, 0, [], [], []⟩
  let thread := (do
    let _ ← Loader.launch path argv environment
    Act.quit (.exited Shell.failed) : Act Unit) fun _ => .over
  (⟨id, if keepsOutput then some number else none⟩,
    { world := { w with processes := w.processes.set id p, next := id + 1 },
      tasks := s.tasks ++ [⟨id, w.clock, none, thread⟩] })

/-- Reads a pipe to its end, in so many steps at most. -/
def drain (pipe : Nat) : Nat → ByteArray → State → ByteArray × State
  | 0, front, s => (front, s)
  | n + 1, front, s =>
    let (octets, left) := (s.world.pipes[pipe]?.getD Pipe.empty).take Pipe.capacity
    if octets.size ≠ 0 then
      drain pipe n (front ++ octets) { s with world := (s.world.alterPipe pipe fun _ => left).touched }
    else
      let isOver := fun (w : World) => !w.hasEnd pipe OpenFile.writes || (w.pipes[pipe]?).any fun p => 0 < p.size
      if !s.world.hasEnd pipe OpenFile.writes then (front, s)
      else
        match Schedule.run isOver none Schedule.maxTurns s with
        | (.arrived, s) => drain pipe n front s
        | (.late, s) => (front, s)

/-- Waits for a process to end, which is killed at a time if there is one. Answers how it ended. -/
def await (id : Nat) (limit : Option Nat) (s : State) : Ending × State :=
  match Schedule.run (fun w => (w.outcome? id).isSome) limit Schedule.maxTurns s with
  | (.arrived, s) => (((s.world.outcome? id).map endingOf).getD .signalled, { s with world := s.world.forget id })
  | (.late, s) =>
    let w := { s.world with clock := max s.world.clock (limit.getD 0) }
    (.overdue, { s with world := ((w.deliver id Signal.kill).2.forget id) })

/-- Runs a program in a directory to its end, and reads what it wrote if that is kept. -/
def runIn (workdir : Nat) (path : String) (argv : List String) (allowance : Option Nat) (keepsOutput : Bool)
    (s : State) : (Ending × Bytes) × State :=
  let (started, s) := start workdir path argv keepsOutput s
  let (ending, s) := await started.id (allowance.map (s.world.clock + ·)) s
  let (output, s) := match started.pipe?, ending with
    | none, _ | _, .overdue => (ByteArray.empty, s)
    | some pipe, _ => drain pipe Schedule.maxTurns .empty s
  let w := s.world.alter World.host fun p => { p with descriptors := .empty }
  ((ending, output.toList), { s with world := { w.touched with clock := w.clock + pause } })

/-- Runs a program in a directory. -/
def run (program : String) (args : List String) (workdir : String) (allowance : Option Nat) (keepsOutput : Bool)
    (s : State) : Except IoError (Ending × Bytes) × State :=
  if !(program :: workdir :: args).all isPlain then (.error .zeroOctet, s)
  else
    let t := s.world.tree
    let argv := (program :: args).map Octets.ofText
    match t.find FileTree.root (Octets.ofText workdir) true with
    | .error e => (.error e, s)
    | .ok base =>
      if !t.holds base Content.isDirectory then (.error .notDirectory, s)
      else if Executable.areTooLong argv then (.error .argumentsTooLong, s)
      else
        match Executable.named t base searchPath argv with
        | .error e => (.error e, s)
        | .ok (path, name, _) =>
          if (Loader.program? name).isNone then (.error .notExecutable, s)
          else if allowance.any (· ≤ Loader.startup) then (.ok (.overdue, []), s)
          else
            let (result, s) := runIn base path argv allowance keepsOutput s
            (.ok result, s)

/-- The machine in miniature. -/
def machine : Machine State :=
  ⟨run, fun path s => s.world.tree.leadsTo FileTree.root (Octets.ofText path) Content.isFile⟩

/-- A process that is given no time does nothing. -/
theorem run_zero_allowance {program : String} {args : List String} {workdir : String} {keepsOutput : Bool}
    {s : State} : (run program args workdir (some 0) keepsOutput s).2 = s := by
  unfold run
  split
  · rfl
  · dsimp only
    split
    · rfl
    · split
      · rfl
      · split
        · rfl
        · split
          · rfl
          · split <;> rfl

end RunLedger.Sandbox
