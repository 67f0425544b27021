import RunLedger.Guest.Call
import RunLedger.Proofs.Guest.Packing

/-!
# What becomes of a request

A request passes two sides that have limits of their own: the guest places the arguments (`stores_placeRequest`), and
the host reads them back. Which of the two refuses, if any, depends on the arguments alone, on the limits of both sides
and on the room in the memory. Guest and host agree on the arguments because everything in a request is placed and read
in one order, that of `Request.arguments`.

* `request_cases`: the guest refuses, or the host does before it is asked, or the host is asked for exactly what the
  guest wants, and the guest gets to see how that ended.
-/

namespace RunLedger

/-! ## Arguments -/

namespace Request

variable {text texts : Type}

/-- The arguments that are handed over in memory, in order. -/
@[simp] def arguments : Request text texts → List (text ⊕ texts)
  | .processExec argv => [.inr argv]
  | .containerPull image => [.inl image]
  | .containerBuild context dockerfile tag => [.inl context, .inl dockerfile, .inl tag]
  | .containerRun image args => [.inl image, .inr args]
  | .containerModule image path dest => [.inl image, .inl path, .inl dest]
  | .metricRecord name _ tags => [.inl name, .inr tags]
  | .coverageReport format path => [.inl format, .inl path]

/-- Whether every argument keeps to limits. -/
def Within (limits : MarshalLimits) (r : Request String (List String)) : Prop :=
  ∀ a ∈ r.arguments, a.elim limits.Allows limits.AllowsAll

/-- What the arguments take in memory. -/
def laid (r : Request String (List String)) : Bytes :=
  r.arguments.flatMap fun a => a.elim Text.Utf8.encode fun texts =>
    (texts.map Text.Utf8.encode).flatten ++ GuestMemory.tableOf 0 (texts.map Text.Utf8.encode)

end Request

/-! ## The way there -/

section Placing

open GuestMemory (stores_encodeText stores_encodeTexts)
open Marshalling (Stores)

/-- **A request is placed if its arguments keep to the limits of the guest and there is room for them,** and is then
read back by everyone to whose limits they keep. -/
theorem Guest.stores_placeRequest (limits : MarshalLimits) (r : Request String (List String)) :
    Stores (Guest.placeRequest limits r) (r.Within limits) r.laid fun placed n =>
      ∀ reader : MarshalLimits, Gives (placed.mapM (n.readText reader) (n.readTexts reader)) (r.Within reader) r := by
  have ht := stores_encodeText limits
  have hl := stores_encodeTexts limits
  cases r with
  | processExec argv =>
    refine ((hl argv).map (@Request.processExec Slice PackedTexts)).imp ?_ ?_ ?_
    · simp [Request.Within]
    · simp [Request.laid]
    · rintro _ n ⟨a, ha, rfl⟩ reader
      exact ((ha reader).map _).congr (by simp [Request.Within])
  | containerPull image =>
    refine ((ht image).map (@Request.containerPull Slice PackedTexts)).imp ?_ ?_ ?_
    · simp [Request.Within]
    · simp [Request.laid]
    · rintro _ n ⟨a, ha, rfl⟩ reader
      exact ((ha reader).map _).congr (by simp [Request.Within])
  | containerBuild context dockerfile tag =>
    have hplaced := (ht context).bind fun a => (ht dockerfile).bind fun b =>
      (ht tag).map (@Request.containerBuild Slice PackedTexts a b)
    refine hplaced.imp ?_ ?_ ?_
    · simp [Request.Within]
    · simp [Request.laid]
    · rintro _ n ⟨a, ha, b, hb, c, hc, rfl⟩ reader
      exact ((ha reader).bind ((hb reader).bind ((hc reader).map _))).congr (by simp [Request.Within])
  | containerRun image args =>
    refine ((ht image).bind fun a => (hl args).map (Request.containerRun a)).imp ?_ ?_ ?_
    · simp [Request.Within]
    · simp [Request.laid]
    · rintro _ n ⟨a, ha, b, hb, rfl⟩ reader
      exact ((ha reader).bind ((hb reader).map _)).congr (by simp [Request.Within])
  | containerModule image path dest =>
    have hplaced := (ht image).bind fun a => (ht path).bind fun b =>
      (ht dest).map (@Request.containerModule Slice PackedTexts a b)
    refine hplaced.imp ?_ ?_ ?_
    · simp [Request.Within]
    · simp [Request.laid]
    · rintro _ n ⟨a, ha, b, hb, c, hc, rfl⟩ reader
      exact ((ha reader).bind ((hb reader).bind ((hc reader).map _))).congr (by simp [Request.Within])
  | metricRecord name value tags =>
    refine ((ht name).bind fun a => (hl tags).map (Request.metricRecord a value)).imp ?_ ?_ ?_
    · simp [Request.Within]
    · simp [Request.laid]
    · rintro _ n ⟨a, ha, b, hb, rfl⟩ reader
      exact ((ha reader).bind ((hb reader).map _)).congr (by simp [Request.Within])
  | coverageReport format path =>
    refine ((ht format).bind fun a => (ht path).map (@Request.coverageReport Slice PackedTexts a)).imp ?_ ?_ ?_
    · simp [Request.Within]
    · simp [Request.laid]
    · rintro _ n ⟨a, ha, b, hb, rfl⟩ reader
      exact ((ha reader).bind ((hb reader).map _)).congr (by simp [Request.Within])

end Placing

/-! ## The way back -/

/-- What a guest gets to see of the answer of a host. A code that means something else to it becomes the plain one. -/
def CapabilityError.seen (capability : Capability) : Except HostError Unit → Except CapabilityError Unit
  | .ok () => .ok ()
  | .error .notImplemented => .error (.notImplemented capability)
  | .error (.unrecoverable _) => .error (.unrecoverable capability)
  | .error (.failed code _) =>
    .error (.host capability (if code = 0 ∨ code = -1 ∨ code = -2 then HostError.codeFailed else code))

theorem result_statusOf (capability : Capability) (answer : Except HostError Unit) :
    (statusOf answer).result capability = CapabilityError.seen capability answer := by
  cases answer with
  | ok _ => rfl
  | error e =>
    cases e with
    | notImplemented => rfl
    | unrecoverable _ => rfl
    | failed code _ =>
      show (Status.hostError code).result capability = _
      rw [Status.result, Status.kind_hostError]
      rfl

namespace Guest

variable {σ : Type}

/-- A request that cannot be placed stays with the guest. -/
theorem request_of_not_placed {g : Guest σ} {r : Request String (List String)} {m n : GuestMemory} {e : MarshalError}
    (h : placeRequest g.limits r m = (.error e, n)) (d : Deadline) (s : σ) :
    g.request r d m s = (.error (.marshal e), m, s) := by
  have hmemory := g.request_memory r d m s
  unfold request at hmemory ⊢
  rw [h] at hmemory ⊢
  exact congrArg (fun m' => (_, m', s)) hmemory

/-- A request that was placed is up to the boundary. -/
theorem request_of_placed {g : Guest σ} {r : Request String (List String)} {m n : GuestMemory}
    {placed : Request Slice PackedTexts} (h : placeRequest g.limits r m = (.ok placed, n)) (d : Deadline) (s : σ) :
    g.request r d m s =
      ((g.boundary.request n placed d s).1.result r.capability, m, (g.boundary.request n placed d s).2) := by
  have hmemory := g.request_memory r d m s
  unfold request at hmemory ⊢
  rw [h] at hmemory ⊢
  exact congrArg (fun m' => (_, m', _)) hmemory

/-- **Every request ends in one of three ways,** and the memory is what it was before. Its arguments are too long, too
many, or there is no room for them: the guest refuses. They are too long or too many for the host: they are refused
before it is asked, which its state shows. Otherwise the host is asked once, for what the guest wants and with its
deadline, and the guest gets to see the answer. The state of the host can be a record of all that it was asked. -/
theorem request_cases (h : Host σ) (ours theirs : MarshalLimits) (r : Request String (List String)) (d : Deadline)
    (m : GuestMemory) (s : σ) :
    let outcome := (⟨h.boundary theirs, ours⟩ : Guest σ).request r d m s
    let fits := r.Within ours ∧ m.used + r.laid.length ≤ m.limit.maxBytes.toNat
    (¬fits ∧ ∃ e, outcome = (.error (.marshal e), m, s)) ∨
      (fits ∧ ¬r.Within theirs ∧ outcome = (.error (.host r.capability HostError.codeInvalidArgument), m, s)) ∨
      (fits ∧ r.Within theirs ∧
        outcome = (CapabilityError.seen r.capability (h.perform r d s).1, m, (h.perform r d s).2)) := by
  intro outcome fits
  have hplace := stores_placeRequest ours r
  by_cases hfits : fits
  · obtain ⟨placed, hplaced, hread⟩ := hplace.ok m hfits.1 hfits.2
    have houtcome : outcome = _ := request_of_placed hplaced d s
    specialize hread [] theirs
    rw [List.append_nil] at hread
    by_cases hwithin : r.Within theirs
    · refine .inr (.inr ⟨hfits, hwithin, ?_⟩)
      have hasked : h.request theirs (m.extend r.laid) placed d s = _ := Host.request_ok (hread.1 hwithin)
      rw [houtcome]
      show ((h.request theirs _ placed d s).1.result _, m, (h.request theirs _ placed d s).2) = _
      rw [hasked, result_statusOf]
    · refine .inr (.inl ⟨hfits, hwithin, ?_⟩)
      obtain ⟨e, he⟩ := hread.2 hwithin
      have hrefused : h.request theirs (m.extend r.laid) placed d s = ((HostError.ofMarshal e).status, s) := by
        rw [Host.request, Host.readRequest, he]
        rfl
      rw [houtcome]
      show ((h.request theirs _ placed d s).1.result _, m, (h.request theirs _ placed d s).2) = _
      rw [hrefused]
      rfl
  · obtain ⟨e, n, hplaced⟩ := hplace.error m hfits
    exact .inl ⟨hfits, e, request_of_not_placed hplaced d s⟩

end Guest

end RunLedger
