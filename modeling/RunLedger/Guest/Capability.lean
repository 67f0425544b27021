import RunLedger.Double.Basic
import RunLedger.Guest.Marshal

/-!
# Capabilities

A capability is one operation that a guest may ask its host for. Every call comes back as a status, one number of 32
bits of which three are reserved; all others are codes that the host chose. A `Request` is a capability with its
arguments, for whatever a text and a list of texts are: the values themselves, or their places in guest memory. Git
resolution also gives a text back and is a call of its own.

* `Status.kind_hostError`: a code that a host fails with is never mistaken for one of the reserved ones.
* `Request.mapM_pure`: handling every argument by itself changes nothing.
-/

namespace RunLedger

/-- An operation that a guest may ask for. -/
inductive Capability where
  | processExec
  | gitResolveCommit
  | containerPull
  | containerBuild
  | containerRun
  | containerModule
  | metricRecord
  | coverageReport
  deriving DecidableEq, Repr, Inhabited

namespace Capability

/-- All of them. -/
def all : List Capability :=
  [processExec, gitResolveCommit, containerPull, containerBuild, containerRun, containerModule, metricRecord,
    coverageReport]

/-- The name of a capability. -/
def name : Capability → String
  | .processExec => "process_exec"
  | .gitResolveCommit => "git_resolve_commit"
  | .containerPull => "container_pull"
  | .containerBuild => "container_build"
  | .containerRun => "container_run"
  | .containerModule => "container_module"
  | .metricRecord => "metric_record"
  | .coverageReport => "coverage_report"

end Capability

/-- Why a call did not succeed, as the guest sees it. -/
inductive CapabilityError where
  /-- The host does not provide the capability. -/
  | notImplemented (capability : Capability)
  /-- The guest must neither retry nor go on. -/
  | unrecoverable (capability : Capability)
  /-- The host failed with a code. -/
  | host (capability : Capability) (code : Int32)
  /-- The arguments could not be handed over. -/
  | marshal (fault : MarshalError)
  deriving DecidableEq, Repr

namespace CapabilityError

/-- The wording of a failure. -/
def message : CapabilityError → String
  | .notImplemented capability => capability.name ++ ": capability unavailable in this environment"
  | .unrecoverable capability => capability.name ++ ": unrecoverable host failure"
  | .host capability code => capability.name ++ s!": host error code {code.toInt}"
  | .marshal fault => "Marshalling failed: " ++ fault.message

/-- Whether the run must end. -/
def isFatal : CapabilityError → Bool
  | .unrecoverable _ => true
  | _ => false

/-- Whether the capability is missing rather than failing. -/
def isNotImplemented : CapabilityError → Bool
  | .notImplemented _ => true
  | _ => false

/-- The code that the host chose, if it did. -/
def code? : CapabilityError → Option Int32
  | .host _ code => some code
  | _ => none

end CapabilityError

/-- What comes back from a call. -/
structure Status where
  raw : Int32
  deriving DecidableEq, Repr

namespace Status

/-- What a status says. -/
inductive Kind where
  | ok
  | notImplemented
  | unrecoverable
  | host (code : Int32)
  deriving DecidableEq, Repr

def ok : Status := ⟨0⟩
def notImplemented : Status := ⟨-1⟩
def unrecoverable : Status := ⟨-2⟩

/-- The status of a host that fails with a code: the code itself, or one if it is reserved. -/
def hostError (code : Int32) : Status := if code = 0 ∨ code = -1 ∨ code = -2 then ⟨1⟩ else ⟨code⟩

/-- What a status says. -/
def kind (s : Status) : Kind :=
  if s.raw = 0 then .ok else if s.raw = -1 then .notImplemented else if s.raw = -2 then .unrecoverable else .host s.raw

/-- A status as the outcome of a call. -/
def result (s : Status) (capability : Capability) : Except CapabilityError Unit :=
  match s.kind with
  | .ok => .ok ()
  | .notImplemented => .error (.notImplemented capability)
  | .unrecoverable => .error (.unrecoverable capability)
  | .host code => .error (.host capability code)

/-- A code that a host fails with is never mistaken for one of the reserved ones. -/
theorem kind_hostError (code : Int32) :
    (hostError code).kind = .host (if code = 0 ∨ code = -1 ∨ code = -2 then 1 else code) := by
  unfold hostError
  split
  · rfl
  · rename_i h
    simp_all [kind]

end Status

/-- A capability other than git resolution with its arguments. -/
inductive Request (text texts : Type) where
  | processExec (argv : texts)
  | containerPull (image : text)
  | containerBuild (context dockerfile tag : text)
  | containerRun (image : text) (args : texts)
  | containerModule (image path dest : text)
  | metricRecord (name : text) (value : Double) (tags : texts)
  | coverageReport (format path : text)
  deriving DecidableEq

namespace Request

variable {text texts text' texts' : Type}

/-- The capability that is asked for. -/
def capability : Request text texts → Capability
  | .processExec _ => .processExec
  | .containerPull _ => .containerPull
  | .containerBuild .. => .containerBuild
  | .containerRun .. => .containerRun
  | .containerModule .. => .containerModule
  | .metricRecord .. => .metricRecord
  | .coverageReport .. => .coverageReport

/-- The request with every argument handled, in order. -/
def mapM {m : Type → Type} [Monad m] (f : text → m text') (g : texts → m texts') :
    Request text texts → m (Request text' texts')
  | .processExec argv => return .processExec (← g argv)
  | .containerPull image => return .containerPull (← f image)
  | .containerBuild context dockerfile tag => return .containerBuild (← f context) (← f dockerfile) (← f tag)
  | .containerRun image args => return .containerRun (← f image) (← g args)
  | .containerModule image path dest => return .containerModule (← f image) (← f path) (← f dest)
  | .metricRecord name value tags => return .metricRecord (← f name) value (← g tags)
  | .coverageReport format path => return .coverageReport (← f format) (← f path)

/-- Handling every argument by itself changes nothing. -/
theorem mapM_pure {m : Type → Type} [Monad m] [LawfulMonad m] (r : Request text texts) :
    r.mapM (m := m) pure pure = pure r := by
  cases r <;> simp [mapM]

end Request

end RunLedger
