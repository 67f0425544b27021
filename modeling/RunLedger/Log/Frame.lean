import RunLedger.Digest
import RunLedger.Message.Wire

/-!
# Record frames

A record of a log is the length of its payload in four octets, most significant first, the payload, and the first four
octets of the payload's digest. The check value at the end tells a torn or overwritten record from a complete one.

* `le_of_decode`: a decoded frame lies inside the octets it was read from and is not empty.
-/

namespace RunLedger

namespace Frame

/-- Octets that a frame adds to its payload. -/
def overhead : Nat := 8

/-- The longest payload. -/
def maxPayload : Nat := 16777216

/-- Why octets are no frame, or a message has none. -/
inductive Error where
  /-- The octets end inside the frame. -/
  | incomplete (available needed : Nat)
  /-- The payload is longer than the longest allowed. -/
  | tooLarge (length : Nat)
  /-- The check value is not that of the payload. -/
  | checksumMismatch
  /-- The payload is no message. -/
  | decode (fault : Wire.Error)
  deriving DecidableEq, Repr

/-- The wording of a fault. -/
def Error.message : Error → String
  | .incomplete available needed => s!"Incomplete frame: {available} of {needed} bytes"
  | .tooLarge length => s!"Record of {length} bytes exceeds the maximum record length"
  | .checksumMismatch => "Record checksum mismatch"
  | .decode fault => "Decode failed: " ++ fault.message

/-- A payload with its length in front and its check value behind. -/
def wrap (payload : Bytes) : Bytes := Bytes.ofNatBE 4 payload.length ++ (payload ++ (Digest.of payload).check)

/-- The frame of a message. -/
def encode (m : Message) : Except Error Bytes :=
  let payload := Wire.message m
  let length := payload.length
  if maxPayload < length then .error (.tooLarge length) else .ok (wrap payload)

/-- The frames of messages one after the other, if every message has one. -/
def encodeAll : List Message → Except Error Bytes
  | [] => .ok []
  | m :: ms => do
    let front ← encode m
    let rest ← encodeAll ms
    .ok (front ++ rest)

/-- The message in a payload, whatever follows it there. -/
def payloadMessage (payload : Bytes) : Except Error Message :=
  match Wire.readMessage payload with
  | .ok (m, _) => .ok m
  | .error e => .error (.decode e)

/-- The message in the frame at the front of a byte string, and the length of the frame. -/
def decode (bytes : Bytes) : Except Error (Message × Nat) :=
  match Bytes.split? 4 bytes with
  | none => .error (.incomplete bytes.length 4)
  | some (front, rest) =>
    let length := Bytes.toNatBE front
    if maxPayload < length then .error (.tooLarge length)
    else
      match Bytes.split? length rest with
      | none => .error (.incomplete bytes.length (length + overhead))
      | some (payload, rest) =>
        match Bytes.split? 4 rest with
        | none => .error (.incomplete bytes.length (length + overhead))
        | some (check, _) =>
          if (Digest.of payload).check ≠ check then .error .checksumMismatch
          else (payloadMessage payload).map fun m => (m, length + overhead)

theorem le_of_decode {bytes : Bytes} {m : Message} {n : Nat} (h : decode bytes = .ok (m, n)) :
    overhead ≤ n ∧ n ≤ bytes.length := by
  unfold decode at h
  split at h
  · cases h
  rename_i front rest hs
  obtain ⟨hf, rfl⟩ := Bytes.split?_eq_some_iff.mp hs
  dsimp only at h
  split at h
  · cases h
  split at h
  · cases h
  rename_i payload rest' hp
  obtain ⟨hl, rfl⟩ := Bytes.split?_eq_some_iff.mp hp
  split at h
  · cases h
  rename_i check rest'' hc
  obtain ⟨hk, rfl⟩ := Bytes.split?_eq_some_iff.mp hc
  split at h
  · cases h
  cases hm : payloadMessage payload with
  | error e => rw [hm] at h; cases h
  | ok m' =>
    rw [hm] at h
    cases h
    simp only [List.length_append, hf, hl, hk, overhead]
    omega

end Frame

end RunLedger
