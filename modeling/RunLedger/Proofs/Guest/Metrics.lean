import RunLedger.Guest.System
import RunLedger.Proofs.Guest.Calling
import RunLedger.Proofs.Log.Writing

/-!
# Samples on their way into a log

A guest records samples; the host makes messages of them and gives them to a sink that writes a log. A sample passes two
limits that know nothing of each other, that of what can be handed over in guest memory and that of what a record can
hold. The first is the stricter one (`Metric.Marshals.fits`), so a sample that the guest may record is never dropped by
the sink, which would do so silently.

* `record_spec`, `recordAll_spec`: what one call, and many calls, do to the log.
* `metrics_logged`: the log of a host holds exactly the samples whose calls succeeded.
-/

namespace RunLedger

/-! ## Which samples are accepted -/

/-- A sample can be handed over in a memory: its name and its tags keep to the limits, and there is room for them and for
the table of the tags. -/
structure Metric.Marshals (limits : MarshalLimits) (m : GuestMemory) (x : Metric) : Prop where
  name_le : (Text.Utf8.encode x.name).length ≤ limits.maxBuffer
  count_le : x.tags.length ≤ limits.maxElements
  tags_le : (x.tags.map Text.Utf8.encode).flatten.length ≤ limits.maxBuffer
  room : m.used + (Text.Utf8.encode x.name).length + (x.tags.map Text.Utf8.encode).flatten.length + 8 * x.tags.length ≤
    m.limit.maxBytes.toNat

/-- A sample that can be handed over, has a name and a finite value. -/
structure Metric.Recordable (limits : MarshalLimits) (m : GuestMemory) (x : Metric) : Prop where
  marshals : x.Marshals limits m
  name_ne : x.name ≠ ""
  finite : x.value.isFinite = true

instance (limits : MarshalLimits) (m : GuestMemory) (x : Metric) : Decidable (x.Marshals limits m) :=
  decidable_of_iff (_ ∧ _ ∧ _ ∧ _) ⟨fun h => ⟨h.1, h.2.1, h.2.2.1, h.2.2.2⟩,
    fun h => ⟨h.name_le, h.count_le, h.tags_le, h.room⟩⟩

instance (limits : MarshalLimits) (m : GuestMemory) (x : Metric) : Decidable (x.Recordable limits m) :=
  decidable_of_iff (x.Marshals limits m ∧ x.name ≠ "" ∧ x.value.isFinite = true) ⟨fun h => ⟨h.1, h.2.1, h.2.2⟩,
    fun h => ⟨h.marshals, h.name_ne, h.finite⟩⟩

/-- The request to record a sample. -/
def Metric.request (x : Metric) : Request String (List String) := .metricRecord x.name x.value x.tags

namespace Metric

variable {limits : MarshalLimits} {m : GuestMemory} {x : Metric}

theorem within_request : x.request.Within limits ↔ limits.Allows x.name ∧ limits.AllowsAll x.tags := by
  simp [request, Request.Within]

theorem length_laid_request (x : Metric) : x.request.laid.length =
    (Text.Utf8.encode x.name).length + (x.tags.map Text.Utf8.encode).flatten.length + 8 * x.tags.length := by
  have htable := GuestMemory.length_tableOf 0 (x.tags.map Text.Utf8.encode)
  rw [List.length_map, GuestMemory.entrySize] at htable
  simp only [request, Request.laid, Request.arguments, List.flatMap_cons, List.flatMap_nil, Sum.elim_inl,
    Sum.elim_inr, List.append_nil, List.length_append, htable]
  omega

/-- What the calling side asks of a request, said of the sample. -/
theorem marshals_iff :
    x.Marshals limits m ↔ x.request.Within limits ∧ m.used + x.request.laid.length ≤ m.limit.maxBytes.toNat := by
  rw [within_request, length_laid_request, ← Nat.add_assoc, ← Nat.add_assoc]
  constructor
  · intro h
    exact ⟨⟨h.name_le, h.count_le, h.tags_le⟩, h.room⟩
  · rintro ⟨⟨hname, hcount, htags⟩, hroom⟩
    exact ⟨hname, hcount, htags, hroom⟩

/-- **A sample that can be handed over fits a record,** under whatever stamp. -/
theorem Marshals.fits (h : x.Marshals .standard m) (stamp : Stamp) : Frame.Fits (stamp.message (.metric x)) := by
  have hname : (Text.Utf8.encode x.name).length ≤ 1048576 := h.name_le
  have hcount : x.tags.length ≤ 4096 := h.count_le
  have htags : (x.tags.map Text.Utf8.encode).flatten.length ≤ 1048576 := h.tags_le
  -- three groups of seven bits write every length up to the limits
  have hgroups : Nat.pow 128 (2 + 1) = 2097152 := by decide
  have hlength := Wire.length_message_metric_le (m := stamp.message (.metric x)) 2 rfl (by omega) (by omega) (by omega)
  unfold Frame.Fits
  simp only [Frame.maxPayload]
  omega

end Metric

/-! ## One call -/

/-- A log that takes whatever is written to it. -/
def LogWriter.Unbounded (w : LogWriter) : Prop := w.target.room = none

theorem LogWriter.Unbounded.append {w : LogWriter} (h : w.Unbounded) (m : Message) : (w.append m).1.Unbounded := by
  have hroom : w.target.room = none := h
  unfold LogWriter.append
  split
  · simp [LogWriter.write, Target.write, hroom, LogWriter.Unbounded]
  · exact hroom

theorem CapabilityError.seen_of_error (capability : Capability) (e : HostError) :
    ∃ e', CapabilityError.seen capability (.error e) = .error e' := by
  cases e <;> exact ⟨_, rfl⟩

namespace SystemHost

variable {μ β : Type}

/-- A guest of the host, with the standard limits on both sides. -/
def guest (h : SystemHost μ β) : Guest (SystemState μ β) := ⟨h.host.boundary .standard, .standard⟩

variable {h : SystemHost μ β} {s : SystemState μ β} {w : LogWriter} {m : GuestMemory} {x : Metric}

/-- What the host does with a sample that reached it: it appends it to the log, or refuses it for its name or value. -/
theorem record_log (hw : s.telemetry = some (.log w)) (d : Deadline) :
    (x.name ≠ "" ∧ x.value.isFinite = true →
      h.perform x.request d s = (.ok (), { s with
        telemetry := some (.log (w.append (s.clock.stamp.message (.metric x))).1), clock := s.clock.next })) ∧
    (¬(x.name ≠ "" ∧ x.value.isFinite = true) → ∃ e, h.perform x.request d s = (.error e, s)) := by
  have hperform : h.perform x.request d s = record x.name x.value x.tags s := rfl
  rw [hperform, record, hw]
  constructor
  · rintro ⟨hname, hfinite⟩
    have hempty : x.name.isEmpty = false := by simpa [String.isEmpty_iff] using hname
    simp [hempty, hfinite, emit, Sink.emit]
  · intro hrefused
    by_cases hname : x.name = ""
    · exact ⟨_, by simp [hname]; rfl⟩
    · have hempty : x.name.isEmpty = false := by simpa [String.isEmpty_iff] using hname
      have hinfinite : x.value.isFinite = false := by simpa [hname] using hrefused
      exact ⟨_, by simp [hempty, hinfinite]; rfl⟩

/-- **What a call to record a sample does:** it succeeds exactly for what is recordable, then one record with the sample
comes behind the log; otherwise the host and its log are as they were. The memory always is. -/
theorem record_spec (hw : s.telemetry = some (.log w)) (hroom : w.Unbounded) (d : Deadline) :
    let out := h.guest.request x.request d m s
    out.2.1 = m ∧
      (x.Recordable .standard m → out.1 = .ok () ∧ ∃ (stamp : Stamp) (w' : LogWriter),
        out.2.2.telemetry = some (.log w') ∧ w'.Unbounded ∧
        w'.target.data = w.target.data ++ Frame.of (stamp.message (.metric x))) ∧
      (¬x.Recordable .standard m → (∃ e, out.1 = .error e) ∧ out.2.2 = s) := by
  intro out
  obtain ⟨haccepted, hrefused⟩ := record_log (h := h) (x := x) hw d
  refine ⟨h.guest.request_memory x.request d m s, ?_⟩
  rcases Guest.request_cases h.host .standard .standard x.request d m s with
    ⟨hn, e, hout⟩ | ⟨hfits, hn, -⟩ | ⟨hfits, -, hout⟩
  · -- the guest cannot hand it over
    have hnot : ¬x.Recordable .standard m := fun hx => hn (Metric.marshals_iff.mp hx.marshals)
    have hout : out = (.error (.marshal e), m, s) := hout
    rw [hout]
    exact ⟨fun hx => absurd hx hnot, fun _ => ⟨⟨_, rfl⟩, rfl⟩⟩
  · exact absurd hfits.1 hn
  · have hmarshals : x.Marshals .standard m := Metric.marshals_iff.mpr hfits
    have hout : out = (CapabilityError.seen x.request.capability (h.perform x.request d s).1, m,
      (h.perform x.request d s).2) := hout
    rw [hout]
    by_cases hx : x.name ≠ "" ∧ x.value.isFinite = true
    · have hfit := hmarshals.fits s.clock.stamp
      rw [haccepted hx]
      refine ⟨fun _ => ⟨rfl, s.clock.stamp, _, rfl, hroom.append _, ?_⟩, fun hnot => ?_⟩
      · exact (LogWriter.append_of_unbounded hfit hroom).2
      · exact absurd ⟨hmarshals, hx.1, hx.2⟩ hnot
    · obtain ⟨e, he⟩ := hrefused hx
      rw [he]
      refine ⟨fun hr => absurd ⟨hr.name_ne, hr.finite⟩ hx, fun _ => ⟨?_, rfl⟩⟩
      exact CapabilityError.seen_of_error _ e

end SystemHost

/-! ## Many calls -/

/-- Records samples one after the other, each with its deadline. -/
def Guest.recordAll {σ : Type} (g : Guest σ) (m : GuestMemory) (s : σ) :
    List (Metric × Deadline) → List (Except CapabilityError Unit) × GuestMemory × σ
  | [] => ([], m, s)
  | (x, d) :: calls =>
    let (answer, m, s) := g.request x.request d m s
    let (answers, m, s) := g.recordAll m s calls
    (answer :: answers, m, s)

/-- The samples whose calls succeeded. -/
def succeeded : List (Metric × Deadline) → List (Except CapabilityError Unit) → List Metric
  | (x, _) :: calls, .ok () :: answers => x :: succeeded calls answers
  | _ :: calls, .error _ :: answers => succeeded calls answers
  | _, _ => []

/-- If calls succeed exactly for what is recordable, the samples whose calls succeeded are those that are. -/
theorem succeeded_eq {limits : MarshalLimits} {m : GuestMemory} {calls : List (Metric × Deadline)}
    {answers : List (Except CapabilityError Unit)}
    (h : List.Forall₂ (fun call answer => answer = .ok () ↔ call.1.Recordable limits m) calls answers) :
    succeeded calls answers = (calls.map Prod.fst).filter fun x => x.Recordable limits m := by
  induction h with
  | nil => rfl
  | @cons call answer calls answers hcall _ ih =>
    cases answer with
    | ok _ =>
      have hx : call.1.Recordable limits m := hcall.mp rfl
      simp [succeeded, ih, hx]
    | error e =>
      have hx : ¬call.1.Recordable limits m := fun hx => by cases hcall.mpr hx
      simp [succeeded, ih, hx]

namespace SystemHost

variable {μ β : Type} {h : SystemHost μ β} {m : GuestMemory}

/-- **What many calls do:** each succeeds exactly for what is recordable, and records with the samples that were
accepted, in order, come behind the log. -/
theorem recordAll_spec {s : SystemState μ β} {w : LogWriter} (hw : s.telemetry = some (.log w)) (hroom : w.Unbounded)
    (calls : List (Metric × Deadline)) :
    let out := h.guest.recordAll m s calls
    List.Forall₂ (fun call answer => answer = .ok () ↔ call.1.Recordable .standard m) calls out.1 ∧
      ∃ recorded w', out.2.2.telemetry = some (.log w') ∧ w'.target.data = w.target.data ++ framed recorded ∧
        (∀ r ∈ recorded, Frame.Fits r) ∧ recorded.map Message.event = (succeeded calls out.1).map Event.metric := by
  induction calls generalizing s w with
  | nil => exact ⟨.nil, [], w, hw, by simp, by simp, rfl⟩
  | cons call calls ih =>
    obtain ⟨x, d⟩ := call
    intro out
    have hstep := record_spec (h := h) (m := m) (x := x) hw hroom d
    cases hcall : h.guest.request x.request d m s with
    | mk answer rest =>
    obtain ⟨m', s'⟩ := rest
    rw [hcall] at hstep
    obtain ⟨hm, haccepted, hrefused⟩ := hstep
    dsimp only at hm haccepted hrefused
    subst hm
    have hout' : out = (answer :: (h.guest.recordAll m' s' calls).1, (h.guest.recordAll m' s' calls).2) := by
      simp only [out, Guest.recordAll, hcall]
    rw [hout']
    by_cases hx : x.Recordable .standard m'
    · obtain ⟨rfl, stamp, w₁, hw₁, hroom₁, hdata₁⟩ := haccepted hx
      obtain ⟨hanswers, recorded, w', hw', hdata, hfit, hevents⟩ := ih hw₁ hroom₁
      have hfirst := hx.marshals.fits stamp
      refine ⟨.cons (iff_of_true rfl hx) hanswers, stamp.message (.metric x) :: recorded, w', hw', ?_, ?_, ?_⟩
      · rw [hdata, hdata₁, framed_cons, List.append_assoc]
      · simpa using ⟨hfirst, hfit⟩
      · simp [succeeded, hevents, Stamp.message]
    · obtain ⟨⟨e, rfl⟩, rfl⟩ := hrefused hx
      obtain ⟨hanswers, recorded, w', hw', hdata, hfit, hevents⟩ := ih hw hroom
      exact ⟨.cons (iff_of_false (by simp) hx) hanswers, recorded, w', hw', hdata, hfit, hevents⟩

/-- **Every sample that is accepted is in the log, and nothing else is.** A log is created with a preamble that a reader
can read, on a target that takes everything, and a host writes the samples of a guest to it. Whatever the guest records,
from whatever memory: a call succeeds exactly for what is recordable, and behind the preamble the reader finds the
samples of the calls that succeeded, in order and bit by bit, and no torn record. None is too long for a record. -/
theorem metrics_logged {reader : Version} {preamble : Preamble} (hp : reader.canRead preamble.version)
    (h : SystemHost μ β) (s : SystemState μ β) (stamp : Stamp) (m : GuestMemory) (calls : List (Metric × Deadline)) :
    let w := (LogWriter.create ⟨{}, none⟩ stamp preamble).1
    let out := h.guest.recordAll m { s with telemetry := some (.log w) } calls
    List.Forall₂ (fun call answer => answer = .ok () ↔ call.1.Recordable .standard m) calls out.1 ∧
      (∀ call ∈ calls, call.1.Recordable .standard m → ∀ stamp : Stamp, Frame.Fits (stamp.message (.metric call.1))) ∧
      ∃ recorded w', out.2.2.telemetry = some (.log w') ∧
        readLog w'.target.data reader = .ok ⟨preamble, ⟨stamp.message (.preamble preamble) :: recorded, none⟩⟩ ∧
        recorded.map Message.event = (succeeded calls out.1).map Event.metric := by
  intro w out
  obtain ⟨-, hcreated⟩ := LogWriter.create_of_unbounded stamp preamble
  have hroom : w.Unbounded := LogWriter.Unbounded.append (w := .resume ⟨{}, none⟩ 0 0) rfl _
  obtain ⟨hanswers, recorded, w', hw', hdata, hfit, hevents⟩ :=
    recordAll_spec (h := h) (m := m) (s := { s with telemetry := some (.log w) }) rfl hroom calls
  refine ⟨hanswers, fun call _ hcall => hcall.marshals.fits, recorded, w', hw', ?_, hevents⟩
  have hlog : w'.target.data = framed (stamp.message (.preamble preamble) :: recorded) := by
    rw [hdata, hcreated, ← framed_append, List.singleton_append]
  have hall : ∀ r ∈ stamp.message (.preamble preamble) :: recorded, Frame.Fits r := by
    simpa using ⟨Frame.fits_of_preamble rfl, hfit⟩
  rw [readLog, hlog, readAll_framed hall]
  simp [openingPreamble, Stamp.message, Message.preamble?, hp, Except.map]

/-- A sample with tags between one without a name, one that is no number and one for which there is no room, all with a
deadline that has passed. -/
theorem metrics_logged_mixed :
    let h : SystemHost Unit Unit := ⟨⟨fun _ _ _ _ _ s => (.error .notFound, s), fun _ _ => false⟩, "w", none⟩
    let reader : Version := ⟨1, 2, 0⟩
    let preamble : Preamble := ⟨⟨1, 0, 0⟩, ⟨1000, 0⟩, ⟨2000, 0⟩⟩
    let stamp : Stamp := ⟨⟨.ofNat 0⟩, ⟨0, 0⟩⟩
    let m := GuestMemory.of [7, 7, 7] ⟨40⟩
    let sample : Metric := ⟨"a", ⟨9223372036854775808⟩, ["x", "yz"]⟩
    let calls : List (Metric × Deadline) := [(⟨"", ⟨0⟩, []⟩, ⟨0⟩), (sample, ⟨0⟩),
      (⟨"n", ⟨9221120237041090560⟩, []⟩, ⟨0⟩), (⟨"b", ⟨0⟩, ["0123456789", "0123456789", "0123456789"]⟩, ⟨0⟩)]
    let s : SystemState Unit Unit := ⟨(), (), none, default⟩
    let out := h.guest.recordAll m
      { s with telemetry := some (.log (LogWriter.create ⟨{}, none⟩ stamp preamble).1) } calls
    reader.canRead preamble.version = true ∧
      List.Forall₂ (fun call answer => answer = .ok () ↔ call.1.Recordable .standard m) calls out.1 ∧
      ∃ recorded w', out.2.2.telemetry = some (.log w') ∧
        readLog w'.target.data reader = .ok ⟨preamble, ⟨stamp.message (.preamble preamble) :: recorded, none⟩⟩ ∧
        recorded.map Message.event = [.metric sample] := by
  intro h reader preamble stamp m sample calls s
  have hp : reader.canRead preamble.version = true := by decide
  obtain ⟨hanswers, -, recorded, w', hw', hlog, hevents⟩ := metrics_logged hp h s stamp m calls
  have honly : (calls.map Prod.fst).filter (fun x => x.Recordable .standard m) = [sample] := by decide +kernel
  rw [succeeded_eq hanswers, honly] at hevents
  exact ⟨hp, hanswers, recorded, w', hw', hlog, hevents⟩

end SystemHost

end RunLedger
