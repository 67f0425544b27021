import RunLedger.Guest.Host

/-!
# Guests

A guest calls through a boundary. It places the arguments in its memory, makes the call, and releases what it placed,
whatever came of the call. Git resolution is done as well as can be: every failure gives the empty text.

* `request_memory`: after a request the memory is what it was before.
-/

namespace RunLedger

/-- Who calls, and the limits within which arguments are placed. -/
structure Guest (σ : Type) where
  boundary : Boundary σ
  limits : MarshalLimits

namespace Guest

variable {σ : Type}

/-- The octets of the slice that a commit is written to. -/
def commitSize : Nat := 64

/-- Places the arguments of a request. -/
def placeRequest (limits : MarshalLimits) (r : Request String (List String)) :
    Marshalling (Request Slice PackedTexts) :=
  r.mapM (GuestMemory.encodeText limits) (GuestMemory.encodeTexts limits)

/-- Makes a request. -/
def request (g : Guest σ) (r : Request String (List String)) (d : Deadline) (m : GuestMemory) (s : σ) :
    Except CapabilityError Unit × GuestMemory × σ :=
  match placeRequest g.limits r m with
  | (.error e, m') => (.error (.marshal e), m'.release m.used, s)
  | (.ok placed, m') =>
    let (status, s) := g.boundary.request m' placed d s
    (status.result r.capability, m'.release m.used, s)

/-- Places a revision and the slice for its commit. -/
def placeRevision (limits : MarshalLimits) (revision : String) : Marshalling (Slice × Slice) := do
  let revision ← GuestMemory.encodeText limits revision
  let out ← Marshalling.step (·.placeZeros commitSize)
  return (revision, out)

/-- The commit of a revision, or why there is none. -/
def tryResolveCommit (g : Guest σ) (revision : String) (d : Deadline) (m : GuestMemory) (s : σ) :
    Except CapabilityError String × GuestMemory × σ :=
  match placeRevision g.limits revision m with
  | (.error e, m') => (.error (.marshal e), m'.release m.used, s)
  | (.ok (revision, out), m') =>
    let (status, m', s) := g.boundary.resolveCommit m' revision out d s
    let commit := do
      status.result .gitResolveCommit
      (m'.readPadded out).mapError .marshal
    (commit, m'.release m.used, s)

/-- The commit of a revision, or nothing. -/
def resolveCommit (g : Guest σ) (revision : String) (d : Deadline) (m : GuestMemory) (s : σ) :
    String × GuestMemory × σ :=
  let (commit, m, s) := g.tryResolveCommit revision d m s
  (commit.toOption.getD "", m, s)

theorem grows_placeRequest (limits : MarshalLimits) (r : Request String (List String)) :
    (placeRequest limits r).Grows := by
  have ht := GuestMemory.grows_encodeText limits
  have hl := GuestMemory.grows_encodeTexts limits
  cases r <;>
    simp only [placeRequest, Request.mapM] <;>
    repeat' first
      | exact Marshalling.grows_pure _
      | refine Marshalling.grows_bind (ht _) fun _ => ?_
      | refine Marshalling.grows_bind (hl _) fun _ => ?_

/-- After a request the memory is what it was before. -/
theorem request_memory (g : Guest σ) (r : Request String (List String)) (d : Deadline) (m : GuestMemory) (s : σ) :
    (g.request r d m s).2.1 = m := by
  obtain ⟨tail, ht⟩ := grows_placeRequest g.limits r m
  unfold request
  split <;> rename_i h <;> rw [h] at ht <;> exact (congrArg (·.release m.used) ht).trans (m.release_extend tail)

end Guest

end RunLedger
