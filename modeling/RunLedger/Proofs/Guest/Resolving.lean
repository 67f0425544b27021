import RunLedger.Proofs.Guest.Calling
import RunLedger.Proofs.Guest.Frames

/-!
# What becomes of a revision

A guest asks for the commit of a revision and leaves 64 octets in its memory for the answer. The host writes the commit
there, with zeros behind it, and the guest reads up to the first zero. A commit of exactly 64 octets has no zero behind it
and is read whole; one that has a zero in itself is cut short there.

* `writeCommit_cases`: a host writes the commit to its slice, or leaves memory alone and says so.
* `readPadded_written`: what was written is read back, up to its first zero.
* `resolveCommit_spec`: what the guest gets, whatever the host does.
-/

namespace RunLedger

open Text.Utf8 (encode upToZero encode_upToZero)

namespace Status

/-- Only one status is success. -/
theorem eq_ok_of_kind {status : Status} (h : status.kind = .ok) : status = .ok := by
  rw [kind] at h
  split at h
  · rename_i hraw
    exact congrArg Status.mk hraw
  split at h
  · cases h
  split at h
  · cases h
  · cases h

/-- A status that is not success is a failure to the guest. -/
theorem result_of_ne_ok {status : Status} (h : status ≠ .ok) (capability : Capability) :
    ∃ e, status.result capability = .error e := by
  rw [result]
  cases hkind : status.kind with
  | ok => exact absurd (eq_ok_of_kind hkind) h
  | notImplemented => exact ⟨_, rfl⟩
  | unrecoverable => exact ⟨_, rfl⟩
  | host code => exact ⟨_, rfl⟩

end Status

/-! ## The slice of the answer -/

namespace GuestMemory

/-- Zeros behind octets do not change what is in front of the first zero. -/
theorem takeWhile_padded (data : Bytes) (k : Nat) :
    (data ++ List.replicate k 0).takeWhile (· ≠ 0) = data.takeWhile (· ≠ 0) := by
  rw [List.takeWhile_append]
  split
  · rename_i hall
    have hzeros : (List.replicate k (0 : UInt8)).takeWhile (· ≠ 0) = [] := by
      cases k <;> rfl
    rw [hzeros, List.append_nil, (List.takeWhile_prefix _).eq_of_length hall]
  · rfl

/-- What stands in a slice after a write. -/
theorem Written.octets {m n : GuestMemory} {s : Slice} {data : Bytes} (h : m.Written s data n)
    (hfits : data.length ≤ s.length.toNat) :
    n.octets s = data ++ List.replicate (s.length.toNat - data.length) 0 := by
  refine List.ext_getElem? fun k => ?_
  rw [GuestMemory.octets, List.getElem?_take, List.getElem?_drop]
  by_cases hk : k < s.length.toNat
  · have hcovers : s.Covers (s.start.toNat + k) := ⟨Nat.le_add_right _ _, Nat.add_lt_add_left hk _⟩
    rw [if_pos hk, h.octet, if_pos hcovers, Nat.add_sub_cancel_left, getElem?_padded hk hfits]
  · rw [if_neg hk, List.getElem?_eq_none]
    rw [List.length_append, List.length_replicate]
    omega

/-- **A text that was written to a slice is read back up to its first zero,** whether or not there is a zero behind it. -/
theorem readPadded_written {m n : GuestMemory} {s : Slice} {text : String} (h : m.Written s (encode text) n)
    (hinside : m.Inside s) (hfits : (encode text).length ≤ s.length.toNat) :
    n.readPadded s = .ok (upToZero text) := by
  have hinside' : n.Inside s := ⟨hinside.1, Nat.le_trans hinside.2 (Nat.le_of_eq h.used.symm)⟩
  rw [readPadded, (n.gives_read s).1 hinside', h.octets hfits]
  show textAt s.start _ = _
  rw [takeWhile_padded, ← encode_upToZero, textAt_encode]

/-- Cutting a memory back gives what it has grown from, if that part of it is still the same. -/
theorem release_of_same {m n : GuestMemory} (hlimit : n.limit = m.limit)
    (hsame : ∀ i < m.used, n.bytes[i]? = m.bytes[i]?) : n.release m.used = m := by
  refine GuestMemory.ext (List.ext_getElem? fun i => ?_) ((limit_release n m.used).trans hlimit)
  rw [bytes_release, List.getElem?_take]
  by_cases hi : i < m.used
  · rw [if_pos hi, hsame i hi]
  · rw [if_neg hi, List.getElem?_eq_none (by rw [length_bytes]; exact Nat.le_of_not_lt hi)]

end GuestMemory

/-! ## The side of the host -/

namespace Host

variable {σ : Type}

/-- A host that cannot read the revision is not asked. -/
theorem writeCommit_of_unread {h : Host σ} {theirs : MarshalLimits} {n : GuestMemory} {source : Slice} {e : MarshalError}
    (hread : n.readText theirs source = .error e) (out : Slice) (d : Deadline) (s : σ) :
    h.writeCommit theirs n source out d s = ((HostError.ofMarshal e).status, n, s) := by
  rw [writeCommit, hread]

/-- A host that fails leaves memory alone. -/
theorem writeCommit_of_failed {h : Host σ} {theirs : MarshalLimits} {n : GuestMemory} {source : Slice} {revision : String}
    {d : Deadline} {s s' : σ} {e : HostError} (hread : n.readText theirs source = .ok revision)
    (hanswer : h.resolveCommit revision d s = (.error e, s')) (out : Slice) :
    h.writeCommit theirs n source out d s = (e.status, n, s') := by
  simp only [writeCommit, hread, hanswer]

/-- The commit that a host gives is written, if that can be done. -/
theorem writeCommit_of_given {h : Host σ} {theirs : MarshalLimits} {n : GuestMemory} {source : Slice}
    {revision commit : String} {d : Deadline} {s s' : σ} (hread : n.readText theirs source = .ok revision)
    (hanswer : h.resolveCommit revision d s = (.ok commit, s')) (out : Slice) :
    (n.Inside out ∧ (encode commit).length ≤ out.length.toNat ∧ ∃ n', n.Written out (encode commit) n' ∧
      h.writeCommit theirs n source out d s = (.ok, n', s')) ∨
    (¬(n.Inside out ∧ (encode commit).length ≤ out.length.toNat) ∧
      ∃ status, status ≠ .ok ∧ h.writeCommit theirs n source out d s = (status, n, s')) := by
  obtain ⟨hinside, hfits, n', hn', hwritten⟩ | ⟨hunfit, e, he⟩ := n.write_cases out (encode commit)
  · refine .inl ⟨hinside, hfits, n', hwritten, ?_⟩
    simp only [writeCommit, hread, hanswer, hn']
  · refine .inr ⟨hunfit, (HostError.failed HostError.codeOutputTooLarge e.message).status, HostError.status_ne_ok _, ?_⟩
    simp only [writeCommit, hread, hanswer, he]

/-- **A host writes the commit to its slice and reports success, or it leaves memory alone and reports none.** -/
theorem writeCommit_cases (h : Host σ) (theirs : MarshalLimits) (n : GuestMemory) (source out : Slice) (d : Deadline)
    (s : σ) :
    let r := h.writeCommit theirs n source out d s
    (r.1 = .ok ∧ ∃ revision commit, n.readText theirs source = .ok revision ∧
      (h.resolveCommit revision d s).1 = .ok commit ∧ n.Inside out ∧ (encode commit).length ≤ out.length.toNat ∧
      n.Written out (encode commit) r.2.1) ∨
    (r.1 ≠ .ok ∧ r.2.1 = n) := by
  intro r
  cases hread : n.readText theirs source with
  | error e =>
    have hr : r = _ := writeCommit_of_unread hread out d s
    rw [hr]
    exact .inr ⟨(HostError.ofMarshal e).status_ne_ok, rfl⟩
  | ok revision =>
    obtain ⟨⟨answer, s'⟩, hanswer⟩ : ∃ answer, h.resolveCommit revision d s = answer := ⟨_, rfl⟩
    cases answer with
    | error e =>
      have hr : r = _ := writeCommit_of_failed hread hanswer out
      rw [hr]
      exact .inr ⟨e.status_ne_ok, rfl⟩
    | ok commit =>
      obtain ⟨hinside, hfits, n', hwritten, hr⟩ | ⟨-, status, hstatus, hr⟩ := writeCommit_of_given hread hanswer out
      · have hr : r = _ := hr
        rw [hr]
        exact .inl ⟨rfl, revision, commit, rfl, by rw [hanswer], hinside, hfits, hwritten⟩
      · have hr : r = _ := hr
        rw [hr]
        exact .inr ⟨hstatus, rfl⟩

/-- A memory that was left as it was, but for what is in a slice. -/
structure Spares (out : Slice) (n n' : GuestMemory) : Prop where
  limit : n'.limit = n.limit
  used : n'.used = n.used
  outside : ∀ i, ¬out.Covers i → n'.bytes[i]? = n.bytes[i]?

/-- Whatever slices the side of the host is called with, it writes to the one for the commit only. -/
theorem writeCommit_spares (h : Host σ) (theirs : MarshalLimits) (n : GuestMemory) (source out : Slice) (d : Deadline)
    (s : σ) : Spares out n (h.writeCommit theirs n source out d s).2.1 := by
  obtain ⟨-, revision, commit, -, -, -, -, hwritten⟩ | ⟨-, hsame⟩ := h.writeCommit_cases theirs n source out d s
  · refine ⟨hwritten.limit, hwritten.used, fun i hi => ?_⟩
    rw [hwritten.octet, if_neg hi]
  · rw [hsame]
    exact ⟨rfl, rfl, fun _ _ => rfl⟩

end Host

/-! ## The side of the guest -/

namespace Guest

variable {σ : Type}

/-- What a revision and the slice for its commit take in memory. -/
def laidFor (revision : String) : Bytes := encode revision ++ List.replicate commitSize 0

/-- **A revision is placed if it keeps to the limits of the guest and there is room for it and its answer,** and is then
read back by everyone to whose limits it keeps. -/
theorem stores_placeRevision (limits : MarshalLimits) (revision : String) :
    Marshalling.Stores (placeRevision limits revision) (limits.Allows revision) (laidFor revision) fun p n =>
      ∀ reader : MarshalLimits, Gives (n.readText reader p.1) (reader.Allows revision) revision := by
  have hzeros := Marshalling.stores_place (List.replicate commitSize 0)
  simp only [← GuestMemory.placeZeros_eq] at hzeros
  refine ((GuestMemory.stores_encodeText limits revision).bind fun source => hzeros.map (Prod.mk source)).imp
    (and_iff_left trivial) rfl ?_
  rintro p n ⟨source, hread, out, -, rfl⟩
  exact hread

/-- The slice for the commit has its octets behind all that was in use. -/
theorem slice_of_placeRevision {limits : MarshalLimits} {revision : String} {m n : GuestMemory} {source out : Slice}
    (h : placeRevision limits revision m = (.ok (source, out), n)) :
    n = m.extend (laidFor revision) ∧ m.used ≤ out.start.toNat ∧ out.length.toNat = commitSize ∧ n.Inside out := by
  obtain ⟨source', m₁, htext, h⟩ := Marshalling.bind_ok_iff.mp h
  obtain ⟨out', n', hzeros, h⟩ := Marshalling.bind_ok_iff.mp h
  cases h
  obtain ⟨-, hplace⟩ := GuestMemory.encodeText_ok_iff.mp htext
  obtain ⟨-, -, -, rfl⟩ := GuestMemory.place_ok_iff.mp hplace
  have hplace' := Marshalling.step_ok_iff.mp hzeros
  rw [GuestMemory.placeZeros_eq] at hplace'
  obtain ⟨hroom, hstart, hlength, rfl⟩ := GuestMemory.place_ok_iff.mp hplace'
  have hlt := m.limit.maxBytes.toNat_lt
  rw [GuestMemory.used_extend] at hroom hstart
  refine ⟨GuestMemory.extend_extend _ _ _, by omega, hlength.trans List.length_replicate, ?_, ?_⟩
  · rw [Slice.stop, hstart, hlength, UInt32.size]
    rw [GuestMemory.limit_extend] at hroom
    omega
  · refine Nat.le_of_eq ?_
    rw [Slice.stop, hstart, hlength, GuestMemory.used_extend, GuestMemory.used_extend]

theorem grows_placeRevision (limits : MarshalLimits) (revision : String) : (placeRevision limits revision).Grows := by
  have hzeros := Marshalling.grows_place (List.replicate commitSize 0)
  simp only [← GuestMemory.placeZeros_eq] at hzeros
  exact Marshalling.grows_bind (GuestMemory.grows_encodeText limits revision) fun _ =>
    Marshalling.grows_bind hzeros fun _ => Marshalling.grows_pure _

/-- A revision that cannot be placed stays with the guest. -/
theorem resolveCommit_of_not_placed {g : Guest σ} {revision : String} {m n : GuestMemory} {e : MarshalError}
    (h : placeRevision g.limits revision m = (.error e, n)) (d : Deadline) (s : σ) :
    g.resolveCommit revision d m s = ("", m, s) := by
  obtain ⟨tail, ht⟩ := grows_placeRevision g.limits revision m
  rw [h] at ht
  have hn : n = m.extend tail := ht
  simp only [resolveCommit, tryResolveCommit, h]
  rw [hn, GuestMemory.release_extend]
  rfl

/-- What a guest makes of the answer of a host. -/
def received : Except HostError String → String
  | .ok commit => if (encode commit).length ≤ commitSize then upToZero commit else ""
  | .error _ => ""

/-- What a guest makes of the status of the host and of the slice that it left for the commit. -/
def gathered (status : Status) (n : GuestMemory) (out : Slice) : String :=
  (do status.result .gitResolveCommit; (n.readPadded out).mapError CapabilityError.marshal).toOption.getD ""

theorem gathered_of_ne_ok {status : Status} (h : status ≠ .ok) (n : GuestMemory) (out : Slice) :
    gathered status n out = "" := by
  obtain ⟨e, he⟩ := Status.result_of_ne_ok h .gitResolveCommit
  rw [gathered, he]
  rfl

theorem gathered_of_ok {n : GuestMemory} {out : Slice} {text : String} (h : n.readPadded out = .ok text) :
    gathered .ok n out = text := by
  rw [gathered, h]
  rfl

/-- A revision that was placed is up to the host. The memory is cut back to what it was. -/
theorem resolveCommit_of_placed {h : Host σ} {ours : MarshalLimits} {revision : String} {m n : GuestMemory}
    {source out : Slice} (hplaced : placeRevision ours revision m = (.ok (source, out), n)) (theirs : MarshalLimits)
    (d : Deadline) (s : σ) :
    let r := h.writeCommit theirs n source out d s
    (⟨h.boundary theirs, ours⟩ : Guest σ).resolveCommit revision d m s = (gathered r.1 r.2.1 out, m, r.2.2) := by
  intro r
  obtain ⟨rfl, hbehind, -, -⟩ := slice_of_placeRevision hplaced
  have hspares := h.writeCommit_spares theirs (m.extend (laidFor revision)) source out d s
  have hrelease : r.2.1.release m.used = m := by
    refine GuestMemory.release_of_same hspares.limit fun i hi => ?_
    have hout : ¬out.Covers i := fun hcovers => Nat.not_le_of_lt hi (Nat.le_trans hbehind hcovers.1)
    rw [hspares.outside i hout, GuestMemory.getElem?_extend hi]
  have hmade : (⟨h.boundary theirs, ours⟩ : Guest σ).resolveCommit revision d m s =
      (gathered r.1 r.2.1 out, r.2.1.release m.used, r.2.2) := by
    simp only [resolveCommit, tryResolveCommit, hplaced]
    rfl
  rw [hmade, hrelease]

/-- What the guest gets to see of a call that can read the revision. -/
theorem gathered_writeCommit {h : Host σ} {theirs : MarshalLimits} {n : GuestMemory} {source out : Slice}
    {revision : String} (hread : n.readText theirs source = .ok revision) (hinside : n.Inside out)
    (hlength : out.length.toNat = commitSize) (d : Deadline) (s : σ) :
    let r := h.writeCommit theirs n source out d s
    gathered r.1 r.2.1 out = received (h.resolveCommit revision d s).1 ∧ r.2.2 = (h.resolveCommit revision d s).2 := by
  intro r
  obtain ⟨⟨answer, s'⟩, hanswer⟩ : ∃ answer, h.resolveCommit revision d s = answer := ⟨_, rfl⟩
  rw [hanswer]
  cases answer with
  | error e =>
    have hr : r = _ := Host.writeCommit_of_failed hread hanswer out
    rw [hr]
    exact ⟨gathered_of_ne_ok e.status_ne_ok _ _, rfl⟩
  | ok commit =>
    obtain ⟨-, hfits, n', hwritten, hr⟩ | ⟨hunfit, status, hstatus, hr⟩ :=
      Host.writeCommit_of_given hread hanswer out
    · have hr : r = _ := hr
      have hread' := GuestMemory.readPadded_written hwritten hinside hfits
      rw [hr]
      refine ⟨?_, rfl⟩
      rw [received, if_pos (hlength ▸ hfits)]
      exact gathered_of_ok hread'
    · have hr : r = _ := hr
      have hlong : ¬(encode commit).length ≤ commitSize := fun hle => hunfit ⟨hinside, hlength ▸ hle⟩
      rw [hr]
      refine ⟨?_, rfl⟩
      rw [received, if_neg hlong]
      exact gathered_of_ne_ok hstatus _ _

/-- **Asking for a commit through guest memory.** If the revision keeps to the limits of both sides, and there is room for
it and its answer, then the host is asked once, and the guest gets the commit that it gives, up to its first zero, as long
as that has at most 64 octets. In all other cases it gets nothing. The memory is then what it was before.

Whatever is asked of the side of the host, the octets outside of the slice for the commit stay as they are, and all of
them do unless success is reported. If it is, what the host gave is read back from the slice. -/
theorem resolveCommit_spec (h : Host σ) (ours theirs : MarshalLimits) (revision : String) (d : Deadline) (m : GuestMemory)
    (s : σ) :
    let outcome := (⟨h.boundary theirs, ours⟩ : Guest σ).resolveCommit revision d m s
    let asked := ours.Allows revision ∧ m.used + (encode revision).length + commitSize ≤ m.limit.maxBytes.toNat ∧
      theirs.Allows revision
    let answer := h.resolveCommit revision d s
    (asked → outcome = (received answer.1, m, answer.2)) ∧ (¬asked → outcome = ("", m, s)) ∧
      ∀ (n : GuestMemory) (source out : Slice),
        let r := (h.boundary theirs).resolveCommit n source out d s
        r.2.1.used = n.used ∧ (∀ i, ¬out.Covers i → r.2.1.bytes[i]? = n.bytes[i]?) ∧ (r.1 ≠ .ok → r.2.1 = n) ∧
          (r.1 = .ok → ∃ text commit, n.readText theirs source = .ok text ∧ (h.resolveCommit text d s).1 = .ok commit ∧
            r.2.1.readPadded out = .ok (upToZero commit)) := by
  intro outcome asked answer
  have hplace := stores_placeRevision ours revision
  have hlaid : (laidFor revision).length = (encode revision).length + commitSize := by
    rw [laidFor, List.length_append, List.length_replicate]
  refine ⟨?_, ?_, fun n source out => ?_⟩
  · rintro ⟨hours, hroom, htheirs⟩
    obtain ⟨⟨source, out⟩, hplaced, hread⟩ := hplace.ok m hours (by rw [hlaid]; omega)
    obtain ⟨-, -, hlength, hinside⟩ := slice_of_placeRevision hplaced
    specialize hread [] theirs
    rw [List.append_nil] at hread
    obtain ⟨htext, hstate⟩ := gathered_writeCommit (hread.1 htheirs) hinside hlength d s
    have houtcome : outcome = _ := resolveCommit_of_placed hplaced theirs d s
    rw [houtcome, htext, hstate]
  · intro hasked
    by_cases hfits : ours.Allows revision ∧ m.used + (laidFor revision).length ≤ m.limit.maxBytes.toNat
    · obtain ⟨⟨source, out⟩, hplaced, hread⟩ := hplace.ok m hfits.1 hfits.2
      have htheirs : ¬theirs.Allows revision := fun htheirs =>
        hasked ⟨hfits.1, by rw [Nat.add_assoc, ← hlaid]; exact hfits.2, htheirs⟩
      specialize hread [] theirs
      rw [List.append_nil] at hread
      obtain ⟨e, he⟩ := hread.2 htheirs
      have houtcome : outcome = _ := resolveCommit_of_placed hplaced theirs d s
      rw [houtcome, Host.writeCommit_of_unread he, gathered_of_ne_ok (HostError.ofMarshal e).status_ne_ok]
    · obtain ⟨e, n, hplaced⟩ := hplace.error m hfits
      exact resolveCommit_of_not_placed hplaced d s
  · intro r
    have hspares := h.writeCommit_spares theirs n source out d s
    refine ⟨hspares.used, hspares.outside, fun hstatus => ?_, fun hstatus => ?_⟩
    · obtain ⟨hok, -⟩ | ⟨-, hsame⟩ := h.writeCommit_cases theirs n source out d s
      · exact absurd hok hstatus
      · exact hsame
    · obtain ⟨-, text, commit, htext, hcommit, hinside, hfits, hwritten⟩ | ⟨hfailed, -⟩ :=
        h.writeCommit_cases theirs n source out d s
      · exact ⟨text, commit, htext, hcommit, GuestMemory.readPadded_written hwritten hinside hfits⟩
      · exact absurd hstatus hfailed

end Guest

end RunLedger
