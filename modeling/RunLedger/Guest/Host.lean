import RunLedger.Guest.Capability
import RunLedger.Time

/-!
# Hosts

A host carries out requests. What it keeps from one call to the next is the state `σ`. To a guest it is a `Boundary`:
calls take places in guest memory and give back a status. The boundary of a host reads the arguments from memory, passes
them on with the deadline, whether that has passed or not, and turns the host's answer into a status. A commit that was
resolved is written into a slice of the guest's choice.

* `HostError.status_ne_ok`: no failure of a host looks like success.
* `request_ok`: a request whose arguments can be read reaches the host as it was written.
-/

namespace RunLedger

/-- Why a host did not do what it was asked for. -/
inductive HostError where
  /-- The host does not provide the capability. -/
  | notImplemented
  /-- The guest must not go on. -/
  | unrecoverable (reason : String)
  /-- It failed with a code; the reason stays with the host. -/
  | failed (code : Int32) (reason : String)
  deriving DecidableEq, Repr

namespace HostError

/-- Codes that hosts fail with. -/
def codeFailed : Int32 := 1
def codeNotFound : Int32 := 2
def codeInvalidArgument : Int32 := 22
def codeOutputTooLarge : Int32 := 75
def codeTimedOut : Int32 := 124
def codeSpawnFailed : Int32 := 127
def codeSignalled : Int32 := 128

/-- The wording of a failure. -/
def message : HostError → String
  | .notImplemented => "Capability not implemented"
  | .unrecoverable reason => "Unrecoverable: " ++ reason
  | .failed code reason => s!"Failed with code {code.toInt}: " ++ reason

/-- What the guest gets to see of a failure. -/
def status : HostError → Status
  | .notImplemented => .notImplemented
  | .unrecoverable _ => .unrecoverable
  | .failed code _ => .hostError code

/-- Arguments that cannot be read are invalid. -/
def ofMarshal (e : MarshalError) : HostError := .failed codeInvalidArgument e.message

/-- No failure of a host looks like success. -/
theorem status_ne_ok (e : HostError) : e.status ≠ Status.ok := by
  cases e with
  | notImplemented => decide
  | unrecoverable _ => show Status.unrecoverable ≠ Status.ok; decide
  | failed code _ =>
    intro h
    have hk := Status.kind_hostError code
    rw [show Status.hostError code = Status.ok from h] at hk
    cases hk

end HostError

/-- What carries out the requests of guests. -/
structure Host (σ : Type) where
  perform : Request String (List String) → Deadline → σ → Except HostError Unit × σ
  resolveCommit : String → Deadline → σ → Except HostError String × σ

/-- The host that provides nothing. -/
def Host.bare {σ : Type} : Host σ where
  perform _ _ s := (.error .notImplemented, s)
  resolveCommit _ _ s := (.error .notImplemented, s)

/-- A host as a guest sees it. -/
structure Boundary (σ : Type) where
  request : GuestMemory → Request Slice PackedTexts → Deadline → σ → Status × σ
  /-- Takes the place of the revision, and the slice that the commit is written to. -/
  resolveCommit : GuestMemory → Slice → Slice → Deadline → σ → Status × GuestMemory × σ

/-- The status of an outcome. -/
def statusOf : Except HostError Unit → Status
  | .ok () => .ok
  | .error e => e.status

namespace Host

variable {σ : Type}

/-- The arguments of a request as they lie in memory. -/
def readRequest (limits : MarshalLimits) (m : GuestMemory) (r : Request Slice PackedTexts) :
    Except HostError (Request String (List String)) :=
  (r.mapM (m.readText limits) (m.readTexts limits)).mapError .ofMarshal

/-- Reads the arguments and passes them on. -/
def request (h : Host σ) (limits : MarshalLimits) (m : GuestMemory) (r : Request Slice PackedTexts) (d : Deadline)
    (s : σ) : Status × σ :=
  match readRequest limits m r with
  | .error e => (e.status, s)
  | .ok r =>
    let (outcome, s) := h.perform r d s
    (statusOf outcome, s)

/-- Reads the revision, passes it on and writes the commit. -/
def writeCommit (h : Host σ) (limits : MarshalLimits) (m : GuestMemory) (revision out : Slice) (d : Deadline) (s : σ) :
    Status × GuestMemory × σ :=
  match m.readText limits revision with
  | .error e => ((HostError.ofMarshal e).status, m, s)
  | .ok revision =>
    match h.resolveCommit revision d s with
    | (.error e, s) => (e.status, m, s)
    | (.ok commit, s) =>
      match m.write out (Text.Utf8.encode commit) with
      | .error e => ((HostError.failed HostError.codeOutputTooLarge e.message).status, m, s)
      | .ok m => (.ok, m, s)

/-- The boundary of a host, which reads arguments within limits. -/
def boundary (h : Host σ) (limits : MarshalLimits) : Boundary σ := ⟨h.request limits, h.writeCommit limits⟩

/-- A request whose arguments can be read reaches the host as it was written. -/
theorem request_ok {h : Host σ} {limits : MarshalLimits} {m : GuestMemory} {r : Request Slice PackedTexts}
    {r' : Request String (List String)} {d : Deadline} {s : σ}
    (hr : r.mapM (m.readText limits) (m.readTexts limits) = .ok r') :
    h.request limits m r d s = (statusOf (h.perform r' d s).1, (h.perform r' d s).2) := by
  unfold request readRequest
  rw [hr]
  rfl

end Host

end RunLedger
