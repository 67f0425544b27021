import RunLedger.Text.Utf8

/-!
# Octets as text

Inside the machine a text holds one character for each octet, so that lengths, places and patterns count octets. At the
border a text is taken apart into the octets that write it, and octets that write a text are put together.

* `bytes_ofBytes`: octets come back from their text.
-/

namespace RunLedger.Sandbox.Octets

/-- The text of octets. -/
def ofBytes (bytes : Bytes) : String := String.ofList (bytes.map fun b => Char.ofNat b.toNat)

/-- The octets of a text. -/
def bytes (s : String) : Bytes := s.toList.map fun c => UInt8.ofNat c.toNat

/-- The text of packed octets. -/
def ofArray (packed : ByteArray) : String := packed.foldl (fun s b => s.push (Char.ofNat b.toNat)) ""

/-- The packed octets of a text. -/
def array (s : String) : ByteArray := s.foldl (fun packed c => packed.push (UInt8.ofNat c.toNat)) .empty

/-- The octets of any text, as a text. -/
def ofText (s : String) : String := ofBytes (Text.Utf8.encode s)

/-- The text that octets write; octets that write none stand for themselves. -/
def toText (s : String) : String :=
  match Text.Utf8.decode (bytes s) with
  | .ok text => text
  | .error _ => s

theorem toNat_ofNat_octet (b : UInt8) : (Char.ofNat b.toNat).toNat = b.toNat := by
  have h : b.toNat.isValidChar := Or.inl (by have := b.toNat_lt; omega)
  rw [Char.ofNat, dif_pos h]
  rfl

/-- Octets come back from their text. -/
theorem bytes_ofBytes (bs : Bytes) : bytes (ofBytes bs) = bs := by
  simp only [bytes, ofBytes, String.toList_ofList, List.map_map]
  induction bs with
  | nil => rfl
  | cons b bs ih => rw [List.map_cons, ih, Function.comp, toNat_ofNat_octet, UInt8.ofNat_toNat]

end RunLedger.Sandbox.Octets
