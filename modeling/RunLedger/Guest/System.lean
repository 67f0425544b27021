import RunLedger.Guest.Host
import RunLedger.Log.Sink
import RunLedger.Message.Clock
import RunLedger.Storage.Disk
import RunLedger.Text.Blank

/-!
# The system host

A host that runs processes of a machine in a working directory, asks the version control program of that machine for
commits, and passes container requests to a backend. Samples and coverage reports become events of a sink. What the
machine does is left open: a `Machine` says what becomes of a command line and whether a path names a file.

* `record_finite`: only named, finite samples become events.
-/

namespace RunLedger

/-- How a process ended. -/
inductive Ending where
  | exited (code : Int32)
  | signalled
  /-- It had not ended when its time was up, and was killed. -/
  | overdue
  deriving DecidableEq, Repr

/-- What processes can be started, for machine states `μ`. -/
structure Machine (μ : Type) where
  /-- Runs a program with arguments in a directory, for so many nanoseconds at most, and keeps its output if asked. Gives
  its ending and what was kept. -/
  run : String → List String → String → Option Nat → Bool → μ → Except IoError (Ending × Bytes) × μ
  /-- Whether a path names a file. -/
  isFile : String → μ → Bool

/-- What carries out container requests, for backend states `β`. -/
abbrev ContainerBackend (β : Type) := Request String (List String) → Deadline → β → Except HostError Unit × β

/-- The state of the system host. -/
structure SystemState (μ β : Type) where
  machine : μ
  backend : β
  /-- Where samples and reports go, if anywhere. -/
  telemetry : Option Sink
  clock : Clock

/-- The machine, the working directory and the container backend, if there is one. -/
structure SystemHost (μ β : Type) where
  machine : Machine μ
  workdir : String
  containers : Option (ContainerBackend β)

namespace SystemHost

open HostError

variable {μ β : Type}

/-- How an ending counts. -/
def outcome : Ending → Except HostError Unit
  | .exited code => if code = 0 then .ok () else .error (.failed code s!"exit status {code.toInt}")
  | .signalled => .error (.failed codeSignalled "terminated by signal")
  | .overdue => .error (.failed codeTimedOut "deadline exceeded")

/-- Runs a program until it ends or the deadline passes, and keeps its output if asked. -/
def run (h : SystemHost μ β) (keepsOutput : Bool) (program : String) (args : List String) (d : Deadline)
    (s : SystemState μ β) : Except HostError Bytes × SystemState μ β :=
  let allowance := (d.remainingAt? s.clock.time).map Duration.total
  match h.machine.run program args h.workdir allowance keepsOutput s.machine with
  | (.error e, machine) =>
    (.error (.failed codeSpawnFailed ("spawn " ++ program ++ ": " ++ e.message)), { s with machine })
  | (.ok (ending, output), machine) => ((outcome ending).map fun () => output, { s with machine })

/-- Runs a command line, unless the deadline has passed already. -/
def exec (h : SystemHost μ β) (argv : List String) (d : Deadline) (s : SystemState μ β) :
    Except HostError Unit × SystemState μ β :=
  match argv with
  | [] => (.error (.failed codeInvalidArgument "empty argv"), s)
  | program :: args =>
    if d.isExpiredAt s.clock.time then (.error (.failed codeTimedOut "deadline passed before spawn"), s)
    else
      let (r, s) := h.run false program args d s
      (r.map fun _ => (), s)

/-- Whether a revision may be handed to the version control program: it is no option. -/
def isRevision (revision : String) : Bool := !revision.isEmpty && revision.toList.head? ≠ some '-'

/-- What is asked about a revision. -/
def revisionArgs (revision : String) : List String :=
  ["rev-parse", "--verify", "--quiet", revision ++ "^\x7bcommit\x7d"]

/-- The commit of a revision: what the version control program prints, without blanks around it. -/
def resolveCommit (h : SystemHost μ β) (revision : String) (d : Deadline) (s : SystemState μ β) :
    Except HostError String × SystemState μ β :=
  if isRevision revision then
    let (r, s) := h.run true "git" (revisionArgs revision) d s
    let commit := do
      let output ← r
      match Text.Utf8.decode output with
      | .ok text => .ok (Text.Blank.trim text)
      | .error _ => .error (.failed codeFailed ("read git output: " ++ IoError.message .notText))
    (commit, s)
  else (.error (.failed codeInvalidArgument "invalid revision"), s)

/-- The state after one more event went to the sink. -/
def emit (s : SystemState μ β) (sink : Sink) (e : Event) : SystemState μ β :=
  { s with telemetry := some (sink.emit (s.clock.stamp.message e)), clock := s.clock.next }

/-- Makes an event of a sample. -/
def record (name : String) (value : Double) (tags : List String) (s : SystemState μ β) :
    Except HostError Unit × SystemState μ β :=
  match s.telemetry with
  | none => (.error .notImplemented, s)
  | some sink =>
    if name.isEmpty then (.error (.failed codeInvalidArgument "empty metric name"), s)
    else if value.isFinite then (.ok (), emit s sink (.metric ⟨name, value, tags⟩))
    else (.error (.failed codeInvalidArgument ("metric " ++ name ++ " is not finite")), s)

/-- Makes an event of a coverage file, which must be there. -/
def report (h : SystemHost μ β) (format path : String) (s : SystemState μ β) :
    Except HostError Unit × SystemState μ β :=
  match s.telemetry with
  | none => (.error .notImplemented, s)
  | some sink =>
    let path := joinPath h.workdir path
    if h.machine.isFile path s.machine then (.ok (), emit s sink (.coverage ⟨format, path⟩))
    else (.error (.failed codeNotFound ("coverage file " ++ path ++ " not found")), s)

/-- Carries out a request. -/
def perform (h : SystemHost μ β) (r : Request String (List String)) (d : Deadline) (s : SystemState μ β) :
    Except HostError Unit × SystemState μ β :=
  match r with
  | .processExec argv => h.exec argv d s
  | .metricRecord name value tags => record name value tags s
  | .coverageReport format path => h.report format path s
  | _ =>
    match h.containers with
    | none => (.error .notImplemented, s)
    | some backend =>
      let (r, backend) := backend r d s.backend
      (r, { s with backend })

/-- The machine as a host. -/
def host (h : SystemHost μ β) : Host (SystemState μ β) := ⟨h.perform, h.resolveCommit⟩

/-- Only named, finite samples become events. -/
theorem record_finite {name : String} {value : Double} {tags : List String} {s : SystemState μ β} {sink : Sink}
    (h : s.telemetry = some sink) :
    (record name value tags s).1 = .ok () ↔ name.isEmpty = false ∧ value.isFinite = true := by
  unfold record
  rw [h]
  cases name.isEmpty <;> cases value.isFinite <;> simp

end SystemHost

end RunLedger
