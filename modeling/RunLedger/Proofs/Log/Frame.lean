import Mathlib.Data.List.Induction
import RunLedger.Log.Frame
import RunLedger.Proofs.Message.Wire

/-!
# Frames read back

A message that fits has one frame, `Frame.of m`, and `Frame.encode` answers it. Frames are recognised by their octets
alone: `decode_eq_ok_iff` says that octets decode exactly when they start with a wrapped payload that holds a message.
Two consequences carry the reading of logs: the frame of a message is read back, whatever follows it (`decode_of_append`),
and a frame that was cut short is not read at all (`decode_of_cut`).
-/

namespace RunLedger

/-- Octets are the digits of the number that they write. -/
theorem Bytes.ofNatBE_toNatBE (bytes : Bytes) : Bytes.ofNatBE bytes.length (Bytes.toNatBE bytes) = bytes := by
  induction bytes using List.reverseRecOn with
  | nil => rfl
  | append_singleton front b ih =>
    have hb := b.toNat_lt
    have hd : (Bytes.toNatBE front * 256 + b.toNat) / 256 = Bytes.toNatBE front := by omega
    have hm : (Bytes.toNatBE front * 256 + b.toNat) % 256 = b.toNat := by omega
    rw [List.length_append, List.length_singleton, Bytes.toNatBE_append_singleton, Bytes.ofNatBE, hd, hm, ih,
      UInt8.ofNat_toNat]

namespace Frame

/-- The frame of a message. -/
def of (m : Message) : Bytes := wrap (Wire.message m)

/-- A message whose payload is not too long for a frame. -/
def Fits (m : Message) : Prop := (Wire.message m).length ≤ maxPayload

instance : DecidablePred Fits := fun m => inferInstanceAs (Decidable ((Wire.message m).length ≤ maxPayload))

/-! ## Wrapped payloads -/

@[simp] theorem length_wrap (payload : Bytes) : (wrap payload).length = payload.length + overhead := by
  simp [wrap, overhead]
  omega

@[simp] theorem length_of (m : Message) : (of m).length = (Wire.message m).length + overhead := length_wrap _

theorem of_ne_nil (m : Message) : of m ≠ [] := by
  intro h
  have := congrArg List.length h
  simp [overhead] at this

/-- The number in front of a payload that is not too long is its length. -/
theorem toNatBE_length {payload : Bytes} (h : payload.length ≤ maxPayload) :
    Bytes.toNatBE (Bytes.ofNatBE 4 payload.length) = payload.length :=
  Bytes.toNatBE_ofNatBE (Nat.lt_of_le_of_lt h (by decide))

/-- No wrapped payload is the front of another one. -/
theorem length_eq_of_wrap_append {p q r s : Bytes} (hp : p.length ≤ maxPayload) (hq : q.length ≤ maxPayload)
    (h : wrap p ++ r = wrap q ++ s) : p.length = q.length := by
  simp only [wrap, List.append_assoc] at h
  have := (List.append_inj h (by simp)).1
  rw [← toNatBE_length hp, this, toNatBE_length hq]

theorem decode_wrap {payload : Bytes} (h : payload.length ≤ maxPayload) (rest : Bytes) :
    decode (wrap payload ++ rest) = (payloadMessage payload).map fun m => (m, payload.length + overhead) := by
  have front : Bytes.split? 4 (wrap payload ++ rest) =
      some (Bytes.ofNatBE 4 payload.length, payload ++ ((Digest.of payload).check ++ rest)) :=
    Bytes.split?_eq_some_iff.mpr ⟨by simp, by simp [wrap]⟩
  have body : Bytes.split? payload.length (payload ++ ((Digest.of payload).check ++ rest)) =
      some (payload, (Digest.of payload).check ++ rest) := Bytes.split?_eq_some_iff.mpr ⟨rfl, rfl⟩
  have check : Bytes.split? 4 ((Digest.of payload).check ++ rest) = some ((Digest.of payload).check, rest) :=
    Bytes.split?_eq_some_iff.mpr ⟨by simp, rfl⟩
  simp only [decode, front, toNatBE_length h, body, check]
  rw [if_neg (by omega), if_neg (by simp)]

/-- **Octets decode exactly when they start with a wrapped payload that holds a message.** -/
theorem decode_eq_ok_iff {bytes : Bytes} {m : Message} {n : Nat} : decode bytes = .ok (m, n) ↔
    ∃ payload rest, bytes = wrap payload ++ rest ∧ payload.length ≤ maxPayload ∧ payloadMessage payload = .ok m ∧
      n = payload.length + overhead := by
  constructor
  · intro h
    unfold decode at h
    split at h
    · cases h
    rename_i front rest hs
    obtain ⟨hf, rfl⟩ := Bytes.split?_eq_some_iff.mp hs
    dsimp only at h
    split at h
    · cases h
    rename_i hmax
    split at h
    · cases h
    rename_i payload rest' hp
    obtain ⟨hl, rfl⟩ := Bytes.split?_eq_some_iff.mp hp
    split at h
    · cases h
    rename_i check rest'' hc
    obtain ⟨-, rfl⟩ := Bytes.split?_eq_some_iff.mp hc
    split at h
    · cases h
    rename_i hsum
    have hcheck : (Digest.of payload).check = check := by simpa using hsum
    have hfront : front = Bytes.ofNatBE 4 payload.length := by rw [hl, ← hf, Bytes.ofNatBE_toNatBE]
    cases hm : payloadMessage payload with
    | error e => rw [hm] at h; cases h
    | ok m' =>
      rw [hm] at h
      cases h
      exact ⟨payload, rest'', by simp [wrap, hfront, hcheck], by omega, hm, by rw [hl]⟩
  · rintro ⟨payload, rest, rfl, hl, hm, rfl⟩
    rw [decode_wrap hl, hm]
    rfl

theorem decode_nil : decode [] = .error (.incomplete 0 4) := rfl

/-! ## The frame of a message -/

theorem encode_of_fits {m : Message} (h : Fits m) : encode m = .ok (of m) := by
  simp only [encode]
  rw [if_neg (by unfold Fits at h; omega)]
  rfl

theorem encode_of_not_fits {m : Message} (h : ¬Fits m) : encode m = .error (.tooLarge (Wire.message m).length) := by
  simp only [encode]
  rw [if_pos (by unfold Fits at h; omega)]

theorem fits_of_preamble {m : Message} (h : m.preamble?.isSome) : Fits m := by
  unfold Message.preamble? at h
  split at h
  · rename_i p hp
    exact Nat.le_trans (Wire.length_message_le hp) (by decide)
  · cases h

theorem encode_eq_ok_iff {m : Message} {frame : Bytes} : encode m = .ok frame ↔ Fits m ∧ frame = of m := by
  by_cases h : Fits m
  · simp [encode_of_fits h, h, eq_comm]
  · simp [encode_of_not_fits h, h]

theorem payloadMessage_message {m : Message} (h : Fits m) : payloadMessage (Wire.message m) = .ok m := by
  have hr := Wire.reads_message (Nat.lt_of_le_of_lt h (by decide)) []
  rw [List.append_nil] at hr
  simp [payloadMessage, hr]

/-- **The frame of a message is read back, whatever follows it.** -/
theorem decode_of_append {m : Message} (h : Fits m) (rest : Bytes) : decode (of m ++ rest) = .ok (m, (of m).length) :=
  decode_eq_ok_iff.mpr ⟨_, rest, rfl, h, payloadMessage_message h, length_of m⟩

/-- **A frame that was cut short is not read.** -/
theorem decode_of_cut {m : Message} (h : Fits m) {front : Bytes} (hf : front <+: of m) (hl : front ≠ of m) :
    ∃ e, decode front = .error e := by
  cases hd : decode front with
  | error e => exact ⟨e, rfl⟩
  | ok r =>
    obtain ⟨payload, rest, rfl, hp, -, -⟩ := decode_eq_ok_iff.mp hd
    obtain ⟨tail, ht⟩ := hf
    rw [List.append_assoc] at ht
    have hlen := length_eq_of_wrap_append hp h (ht.trans (List.append_nil _).symm)
    -- the front already has the length of the whole frame
    have hall := congrArg List.length ht
    simp only [List.length_append, length_wrap, length_of, hlen] at hall
    obtain rfl : tail = [] := List.eq_nil_of_length_eq_zero (by omega)
    exact absurd (by simpa using ht) hl

end Frame

end RunLedger
