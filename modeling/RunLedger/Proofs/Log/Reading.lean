import RunLedger.Log.Cursor
import RunLedger.Proofs.Log.Frame

/-!
# Reading logs

Every log falls into records and a rest: a front that decodes record by record (`Whole`), and behind it octets of which
no record can be read (`exists_whole`). Reading takes the messages of the front, says where the rest starts unless it is
empty, and leaves the cursor there (`readOnto_eq`, `readAll_eq`).

The frames of messages are a whole log (`whole_framed`), so what is encoded is read back (`readAll_framed`,
`read_encodeAll`).
-/

namespace RunLedger

/-- A log without damage, and the messages of its records. -/
inductive Whole : Bytes → List Message → Prop
  | nil : Whole [] []
  | cons {frame log : Bytes} {m : Message} {ms : List Message} :
      Frame.decode frame = .ok (m, frame.length) → Whole log ms → Whole (frame ++ log) (m :: ms)

/-- What a record is does not depend on what follows it. -/
theorem Frame.decode_take_append {bytes : Bytes} {m : Message} {n : Nat} (h : Frame.decode bytes = .ok (m, n))
    (rest : Bytes) : Frame.decode (bytes.take n ++ rest) = .ok (m, n) := by
  obtain ⟨payload, rest', rfl, hl, hm, rfl⟩ := Frame.decode_eq_ok_iff.mp h
  refine Frame.decode_eq_ok_iff.mpr ⟨payload, rest, ?_, hl, hm, rfl⟩
  rw [List.take_append_of_le_length (by simp), List.take_of_length_le (by simp)]

theorem Whole.append {log log' : Bytes} {ms ms' : List Message} (h : Whole log ms) (h' : Whole log' ms') :
    Whole (log ++ log') (ms ++ ms') := by
  induction h with
  | nil => exact h'
  | cons hd _ ih => rw [List.append_assoc]; exact Whole.cons hd ih

/-- **Every log is whole up to a place from which no record can be read.** -/
theorem exists_whole (log : Bytes) :
    ∃ front rest ms, log = front ++ rest ∧ Whole front ms ∧ ∃ e, Frame.decode rest = .error e := by
  induction hn : log.length using Nat.strongRecOn generalizing log with
  | ind n ih =>
    cases hd : Frame.decode log with
    | error e => exact ⟨[], log, [], rfl, Whole.nil, e, hd⟩
    | ok r =>
      obtain ⟨m, k⟩ := r
      have hk := Frame.le_of_decode hd
      simp only [Frame.overhead] at hk
      obtain ⟨front, rest, ms, hs, hw, hr⟩ := ih (log.drop k).length (by simp; omega) _ rfl
      have hd' := Frame.decode_take_append hd []
      rw [List.append_nil] at hd'
      refine ⟨log.take k ++ front, rest, m :: ms, ?_, Whole.cons ?_ hw, hr⟩
      · rw [List.append_assoc, ← hs, List.take_append_drop]
      · rw [hd', List.length_take_of_le hk.2]

/-! ## Cursors over whole logs -/

namespace Cursor

/-- The cursor behind some more records and octets. -/
def skip (c : Cursor) (records octets : Nat) : Cursor :=
  ⟨min (c.record + records) maxPosition, min (c.offset + octets) maxPosition⟩

/-- A cursor whose numbers are 64-bit numbers. -/
def Valid (c : Cursor) : Prop := c.record ≤ maxPosition ∧ c.offset ≤ maxPosition

theorem valid_start : start.Valid := ⟨Nat.zero_le _, Nat.zero_le _⟩

theorem skip_zero {c : Cursor} (h : c.Valid) : c.skip 0 0 = c := by
  simp [skip, Nat.min_eq_left h.1, Nat.min_eq_left h.2]

theorem skip_advance (c : Cursor) (n records octets : Nat) :
    (c.advance n).skip records octets = c.skip (records + 1) (n + octets) := by
  simp only [advance, skip, mk.injEq]
  omega

theorem valid_advance (c : Cursor) (n : Nat) : (c.advance n).Valid := ⟨Nat.min_le_right _ _, Nat.min_le_right _ _⟩

theorem readOnto_of_ok {c : Cursor} {read : List Message} {log : Bytes} {m : Message} {n : Nat}
    (h : Frame.decode log = .ok (m, n)) : c.readOnto read log = (c.advance n).readOnto (m :: read) (log.drop n) := by
  rw [readOnto.eq_def]
  split
  · cases h
  · split
    · rename_i h'
      rw [h] at h'
      cases h'
      rfl
    · rename_i h'
      rw [h] at h'
      cases h'

theorem readOnto_of_error {c : Cursor} {read : List Message} {log : Bytes} {e : Frame.Error}
    (h : Frame.decode log = .error e) :
    c.readOnto read log = (⟨read.reverse, if log = [] then none else some c.offset⟩, c) := by
  rw [readOnto.eq_def]
  split
  · rfl
  · split
    · rename_i h'
      rw [h] at h'
      cases h'
    · simp

/-- **What is read of a log, and where the cursor stands then.** -/
theorem readOnto_eq {front rest : Bytes} {ms : List Message} {e : Frame.Error} (hw : Whole front ms)
    (hr : Frame.decode rest = .error e) {c : Cursor} (hc : c.Valid) (read : List Message) :
    c.readOnto read (front ++ rest) =
      (⟨read.reverse ++ ms, if rest = [] then none else some (c.skip ms.length front.length).offset⟩,
        c.skip ms.length front.length) := by
  induction hw generalizing c read with
  | nil => simp [readOnto_of_error hr, skip_zero hc]
  | @cons frame log m ms hd _ ih =>
    have hd' := Frame.decode_take_append hd (log ++ rest)
    rw [List.take_length] at hd'
    rw [List.append_assoc, readOnto_of_ok hd', List.drop_left, ih (valid_advance c _), skip_advance]
    simp

end Cursor

theorem Cursor.read_start {log : Bytes} : Cursor.start.read log = Cursor.start.readOnto [] log := by
  simp [Cursor.read, Cursor.start]

/-- What is read of a whole log that is followed by octets of which no record can be read. -/
theorem readAll_eq {front rest : Bytes} {ms : List Message} {e : Frame.Error} (hw : Whole front ms)
    (hr : Frame.decode rest = .error e) :
    readAll (front ++ rest) = ⟨ms, if rest = [] then none else some (min front.length maxPosition)⟩ := by
  rw [readAll, Cursor.read_start, Cursor.readOnto_eq hw hr Cursor.valid_start]
  simp [Cursor.skip, Cursor.start]

theorem readAll_whole {log : Bytes} {ms : List Message} (hw : Whole log ms) : readAll log = ⟨ms, none⟩ := by
  have := readAll_eq hw Frame.decode_nil
  rwa [List.append_nil] at this

/-! ## The frames of messages -/

/-- The frames of messages one after the other. -/
def framed (ms : List Message) : Bytes := ms.flatMap Frame.of

@[simp] theorem framed_nil : framed [] = [] := rfl

@[simp] theorem framed_cons (m : Message) (ms : List Message) : framed (m :: ms) = Frame.of m ++ framed ms := rfl

@[simp] theorem framed_append (ms ms' : List Message) : framed (ms ++ ms') = framed ms ++ framed ms' :=
  List.flatMap_append

@[simp] theorem framed_eq_nil_iff {ms : List Message} : framed ms = [] ↔ ms = [] := by
  cases ms <;> simp [Frame.of_ne_nil]

/-- A log has at least as many octets as records. -/
theorem length_le_framed (ms : List Message) : ms.length ≤ (framed ms).length := by
  induction ms with
  | nil => simp
  | cons m ms ih =>
    simp only [List.length_cons, framed_cons, List.length_append, Frame.length_of, Frame.overhead]
    omega

theorem whole_of_fits {log : Bytes} {ms : List Message} {m : Message} (hw : Whole log ms) (hm : Frame.Fits m) :
    Whole (Frame.of m ++ log) (m :: ms) :=
  .cons (by simpa using Frame.decode_of_append hm []) hw

theorem whole_framed {ms : List Message} (h : ∀ m ∈ ms, Frame.Fits m) : Whole (framed ms) ms := by
  induction ms with
  | nil => exact Whole.nil
  | cons m ms ih => exact whole_of_fits (ih fun x hx => h x (List.mem_cons_of_mem _ hx)) (h m List.mem_cons_self)

theorem readAll_framed {ms : List Message} (h : ∀ m ∈ ms, Frame.Fits m) : readAll (framed ms) = ⟨ms, none⟩ :=
  readAll_whole (whole_framed h)

/-- Behind messages whose frames take few enough octets, the cursor knows how many there are. -/
theorem Cursor.skip_start {ms : List Message} (h : (framed ms).length ≤ maxPosition) :
    Cursor.start.skip ms.length (framed ms).length = ⟨ms.length, (framed ms).length⟩ := by
  have := length_le_framed ms
  simp only [Cursor.skip, Cursor.start, Cursor.mk.injEq]
  omega

theorem Cursor.read_start_framed {ms : List Message} (h : ∀ m ∈ ms, Frame.Fits m) :
    Cursor.start.read (framed ms) = (⟨ms, none⟩, Cursor.start.skip ms.length (framed ms).length) := by
  have := Cursor.readOnto_eq (whole_framed h) Frame.decode_nil Cursor.valid_start []
  rw [List.append_nil] at this
  rw [Cursor.read_start, this]
  simp

theorem encodeAll_of_fits {ms : List Message} (h : ∀ m ∈ ms, Frame.Fits m) :
    Frame.encodeAll ms = .ok (framed ms) := by
  induction ms with
  | nil => rfl
  | cons m ms ih =>
    rw [Frame.encodeAll, Frame.encode_of_fits (h m List.mem_cons_self),
      ih fun x hx => h x (List.mem_cons_of_mem _ hx)]
    rfl

/-- The first message that does not fit is what a batch is refused for. -/
theorem encodeAll_of_not_fits {ms : List Message} {m : Message} (hm : m ∈ ms) (h : ¬Frame.Fits m) :
    ∃ x ∈ ms, ¬Frame.Fits x ∧ Frame.encodeAll ms = .error (.tooLarge (Wire.message x).length) := by
  induction ms with
  | nil => cases hm
  | cons x ms ih =>
    by_cases hx : Frame.Fits x
    · have hm' : m ∈ ms := (List.mem_cons.mp hm).resolve_left fun e => h (e ▸ hx)
      obtain ⟨y, hy, hn, he⟩ := ih hm'
      refine ⟨y, List.mem_cons_of_mem _ hy, hn, ?_⟩
      rw [Frame.encodeAll, Frame.encode_of_fits hx, he]
      rfl
    · refine ⟨x, List.mem_cons_self, hx, ?_⟩
      rw [Frame.encodeAll, Frame.encode_of_not_fits hx]
      rfl

/-- **What is encoded is read back.** Messages whose payloads are not too long become a log from which exactly they are
read, to its end, and behind which the cursor stands then, if positions in the log are 64-bit numbers. If one message is
too long there is no log. -/
theorem read_encodeAll (ms : List Message) :
    ((∀ m ∈ ms, (Wire.message m).length ≤ Frame.maxPayload) →
      ∃ log, Frame.encodeAll ms = .ok log ∧ readAll log = ⟨ms, none⟩ ∧
        (log.length < UInt64.size → Cursor.start.read log = (⟨ms, none⟩, ⟨ms.length, log.length⟩))) ∧
    ((∃ m ∈ ms, Frame.maxPayload < (Wire.message m).length) →
      ∃ m ∈ ms, Frame.maxPayload < (Wire.message m).length ∧
        Frame.encodeAll ms = .error (.tooLarge (Wire.message m).length)) := by
  constructor
  · intro hfit
    refine ⟨framed ms, encodeAll_of_fits hfit, readAll_framed hfit, fun hsize => ?_⟩
    rw [Cursor.read_start_framed hfit, Cursor.skip_start (Nat.le_sub_one_of_lt hsize)]
  · rintro ⟨m, hm, hlong⟩
    obtain ⟨x, hx, hn, he⟩ := encodeAll_of_not_fits hm (Nat.not_le.mpr hlong)
    exact ⟨x, hx, Nat.not_le.mp hn, he⟩

/-- A sample whose value is no number, and the record of a span. -/
theorem read_encodeAll_pair :
    let ms : List Message := [⟨⟨.ofNat 7⟩, ⟨5, 6⟩, .metric ⟨"größe", ⟨0x7ff8000000000001⟩, ["a=b", ""]⟩⟩,
      ⟨⟨.ofNat 8⟩, ⟨6, 0⟩, .op ⟨⟨"test", by decide, by decide⟩, [⟨"ci", by decide, by decide⟩], .error, 12⟩⟩]
    (∀ m ∈ ms, (Wire.message m).length ≤ Frame.maxPayload) ∧
      ∃ log, Frame.encodeAll ms = .ok log ∧ readAll log = ⟨ms, none⟩ ∧ log.length < UInt64.size ∧
        Cursor.start.read log = (⟨ms, none⟩, ⟨ms.length, log.length⟩) := by
  intro ms
  have hfit : ∀ m ∈ ms, (Wire.message m).length ≤ Frame.maxPayload := by decide +kernel
  obtain ⟨log, hlog, hread, hcursor⟩ := (read_encodeAll ms).1 hfit
  have hsize : log.length < UInt64.size := by
    obtain rfl := Except.ok.inj (hlog.symm.trans (encodeAll_of_fits hfit))
    decide +kernel
  exact ⟨hfit, log, hlog, hread, hsize, hcursor hsize⟩

end RunLedger
