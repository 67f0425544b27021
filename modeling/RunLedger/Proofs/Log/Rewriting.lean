import RunLedger.Proofs.Log.Reading
import RunLedger.Proofs.Message.Canonical

/-!
# What can be read can be written again

A record may be written otherwise than `Frame.encode` does it, with padded numbers or octets behind its message. The frame
of the message that is read of it takes no more octets (`Frame.length_of_le`), and so the message fits a frame.

* `Frame.rewrite_of_decode`: a record is read from its own octets alone, and the message in it can be written again, to a
  frame that is no longer and is read back.
* `encodeAll_readAll`: all that is read of a log, damaged or not, can be written again, to a whole log that is no longer.
-/

namespace RunLedger

namespace Frame

theorem length_message_le_of_payloadMessage {payload : Bytes} {m : Message} (h : payloadMessage payload = .ok m) :
    (Wire.message m).length ≤ payload.length := by
  unfold payloadMessage at h
  split at h
  · rename_i m' rest hread
    cases h
    exact Nat.le_trans (Nat.le_add_right _ _) (Wire.spends_message payload _ rest hread)
  · cases h

/-- A message that was read fits a frame. -/
theorem fits_of_decode {bytes : Bytes} {m : Message} {n : Nat} (h : decode bytes = .ok (m, n)) : Fits m := by
  obtain ⟨payload, rest, -, hmax, hm, -⟩ := decode_eq_ok_iff.mp h
  exact Nat.le_trans (length_message_le_of_payloadMessage hm) hmax

/-- The frame of a message that was read is no longer than what it was read from. -/
theorem length_of_le {bytes : Bytes} {m : Message} {n : Nat} (h : decode bytes = .ok (m, n)) : (of m).length ≤ n := by
  obtain ⟨payload, rest, -, -, hm, rfl⟩ := decode_eq_ok_iff.mp h
  rw [length_of]
  exact Nat.add_le_add_right (length_message_le_of_payloadMessage hm) overhead

/-- What is read is read from the octets of the record alone. -/
theorem decode_of_take_eq {bytes other : Bytes} {m : Message} {n : Nat} (h : decode bytes = .ok (m, n))
    (hother : other.take n = bytes.take n) : decode other = .ok (m, n) := by
  rw [← List.take_append_drop n other, hother]
  exact decode_take_append h (other.drop n)

/-- **A record that is read can be written again.** It lies inside the octets that it was read from, and nothing behind it
changes what is read. Its message has a frame, which takes no more octets than the record took and is read back, whatever
follows it. -/
theorem rewrite_of_decode {bytes : Bytes} {m : Message} {n : Nat} (h : decode bytes = .ok (m, n)) :
    8 ≤ n ∧ n ≤ bytes.length ∧ (∀ other, other.take n = bytes.take n → decode other = .ok (m, n)) ∧
      ∃ frame, encode m = .ok frame ∧ frame.length ≤ n ∧ ∀ rest, decode (frame ++ rest) = .ok (m, frame.length) := by
  obtain ⟨hmin, hmax⟩ := le_of_decode h
  have hfits := fits_of_decode h
  exact ⟨hmin, hmax, fun other hother => decode_of_take_eq h hother, of m, encode_of_fits hfits, length_of_le h,
    decode_of_append hfits⟩

/-- A heartbeat whose numbers are all padded, with octets behind it in its payload and an octet behind its frame. -/
theorem rewrite_of_decode_padded :
    let id : MessageId := ⟨.ofNat 7⟩
    let m : Message := ⟨id, ⟨5, 6⟩, .heartbeat⟩
    let payload : Bytes := [0x90, 0] ++ id.uuid.bytes ++ [0x85, 0x80, 0] ++ [0x86, 0] ++ [0x81, 0] ++ [1, 2, 3]
    decode (wrap payload ++ [9]) = .ok (m, payload.length + overhead) ∧
      payload ≠ Wire.message m ∧
      ∃ frame, encode m = .ok frame ∧ frame.length ≤ payload.length + overhead ∧
        ∀ rest, decode (frame ++ rest) = .ok (m, frame.length) := by
  intro id m payload
  have hm : payloadMessage payload = .ok m := by decide +kernel
  have hread : decode (wrap payload ++ [9]) = .ok (m, payload.length + overhead) := by
    rw [decode_wrap (by decide +kernel), hm]
    rfl
  obtain ⟨-, -, -, hframe⟩ := rewrite_of_decode hread
  exact ⟨hread, by decide +kernel, hframe⟩

end Frame

/-! ## Whole logs -/

theorem Whole.fits {log : Bytes} {ms : List Message} (h : Whole log ms) : ∀ m ∈ ms, Frame.Fits m := by
  induction h with
  | nil => exact nofun
  | cons hd _ ih =>
    intro m hm
    rcases List.mem_cons.mp hm with rfl | hm
    · exact Frame.fits_of_decode hd
    · exact ih m hm

/-- The frames of the messages of a log take no more octets than the log. -/
theorem Whole.length_framed_le {log : Bytes} {ms : List Message} (h : Whole log ms) :
    (framed ms).length ≤ log.length := by
  induction h with
  | nil => exact Nat.le_refl _
  | cons hd _ ih =>
    rw [framed_cons, List.length_append, List.length_append]
    exact Nat.add_le_add (Frame.length_of_le hd) ih

/-- **What is read of a log can be written again,** whatever octets the log consists of: to a log that is no longer, and
of which the same messages are read, to its end. -/
theorem encodeAll_readAll (log : Bytes) :
    ∃ log', Frame.encodeAll (readAll log).messages = .ok log' ∧ log'.length ≤ log.length ∧
      readAll log' = ⟨(readAll log).messages, none⟩ := by
  obtain ⟨front, rest, ms, rfl, hwhole, e, he⟩ := exists_whole log
  rw [readAll_eq hwhole he]
  refine ⟨framed ms, encodeAll_of_fits hwhole.fits, ?_, readAll_framed hwhole.fits⟩
  rw [List.length_append]
  exact Nat.le_trans hwhole.length_framed_le (Nat.le_add_right _ _)

end RunLedger
