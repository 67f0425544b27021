import RunLedger.Text.Quoted
import RunLedger.Text.Utf8

/-!
# Hexadecimal text

`encode` writes two lowercase digits per octet; `decode` reads digits of either case. A text of odd length is refused
before any character is looked at, then the first octet of the text that is no digit.

* `decode_encode`: what is written reads back.
-/

namespace RunLedger.Text.Hex

/-- The lowercase digit of a number below sixteen. -/
def digit (n : Nat) : Char := if n < 10 then Char.ofNat (48 + n) else Char.ofNat (87 + n)

/-- The value of a digit of either case, given as an ASCII code. -/
def value? (code : Nat) : Option Nat :=
  if 48 ≤ code ∧ code ≤ 57 then some (code - 48)
  else if 97 ≤ code ∧ code ≤ 102 then some (code - 87)
  else if 65 ≤ code ∧ code ≤ 70 then some (code - 55)
  else none

/-- The two digits of an octet. -/
def pair (b : UInt8) : List Char := [digit (b.toNat / 16), digit (b.toNat % 16)]

/-- The digits of a byte string. -/
def encodeList (bytes : Bytes) : List Char := bytes.flatMap pair

/-- The digits of a byte string, as a text. -/
def encode (bytes : Bytes) : String := String.ofList (encodeList bytes)

/-- Why a text writes no byte string. -/
inductive Error where
  /-- The number of octets is odd. -/
  | oddLength
  /-- This octet of the text, at this position, is no digit. -/
  | invalidCharacter (octet : UInt8) (position : Nat)
  deriving DecidableEq, Repr

/-- The wording of a fault. An octet is shown as the character with its number. -/
def Error.message : Error → String
  | .oddLength => "Odd number of digits"
  | .invalidCharacter octet position =>
    s!"Invalid character {Quoted.character (Char.ofNat octet.toNat)} at position {position}"

/-- The value of the digit at a position. -/
def readDigit (position : Nat) (octet : UInt8) : Except Error Nat :=
  match value? octet.toNat with
  | some n => .ok n
  | none => .error (.invalidCharacter octet position)

/-- The octets written from a position on, after those read so far (latest first). -/
def decodeOnto (read : Bytes) (position : Nat) : Bytes → Except Error Bytes
  | [] => .ok read.reverse
  | [_] => .error .oddLength
  | hi :: lo :: rest =>
    match readDigit position hi, readDigit (position + 1) lo with
    | .ok h, .ok l => decodeOnto (UInt8.ofNat (h * 16 + l) :: read) (position + 2) rest
    | .error e, _ => .error e
    | _, .error e => .error e

/-- The byte string that an ASCII text of digits writes. -/
def decodeBytes (octets : Bytes) : Except Error Bytes :=
  if octets.length % 2 = 1 then .error .oddLength else decodeOnto [] 0 octets

/-- The byte string that a text of digits writes. -/
def decode (s : String) : Except Error Bytes := decodeBytes (Utf8.encode s)

theorem digit_table : ∀ n : Fin 16, String.utf8EncodeChar (digit n) = [UInt8.ofNat (digit n).toNat] ∧
    value? (UInt8.ofNat (digit n).toNat).toNat = some n.val := by
  decide

/-- A digit is an ASCII character with the value it was made from. -/
theorem digit_spec (n : Fin 16) : ∃ b : UInt8, String.utf8EncodeChar (digit n) = [b] ∧ value? b.toNat = some n.val :=
  ⟨_, digit_table n⟩

theorem decodeOnto_encodeList (read : Bytes) (position : Nat) (bytes : Bytes) :
    decodeOnto read position ((encodeList bytes).flatMap String.utf8EncodeChar) = .ok (read.reverse ++ bytes) := by
  induction bytes generalizing read position with
  | nil => simp [encodeList, decodeOnto]
  | cons b bytes ih =>
    have hb := b.toNat_lt
    obtain ⟨h, he, hv⟩ := digit_spec ⟨b.toNat / 16, by omega⟩
    obtain ⟨l, le, lv⟩ := digit_spec ⟨b.toNat % 16, by omega⟩
    have hsum : UInt8.ofNat (b.toNat / 16 * 16 + b.toNat % 16) = b := by
      rw [Nat.div_add_mod']; exact UInt8.ofNat_toNat
    simp only [encodeList, List.flatMap_cons, pair, List.cons_append, List.nil_append] at he le ih ⊢
    simp only [he, le, List.cons_append, List.nil_append, decodeOnto, readDigit, hv, lv, hsum, ih]
    simp

theorem length_flatMap_encodeList (bytes : Bytes) :
    ((encodeList bytes).flatMap String.utf8EncodeChar).length = 2 * bytes.length := by
  induction bytes with
  | nil => rfl
  | cons b bytes ih =>
    have hb := b.toNat_lt
    obtain ⟨h, he, -⟩ := digit_spec ⟨b.toNat / 16, by omega⟩
    obtain ⟨l, le, -⟩ := digit_spec ⟨b.toNat % 16, by omega⟩
    simp only [encodeList, List.flatMap_cons, pair, List.cons_append, List.nil_append] at he le ih ⊢
    simp [he, le, ih]
    omega

/-- A written byte string is read back. -/
theorem decode_encode (bytes : Bytes) : decode (encode bytes) = .ok bytes := by
  simp only [decode, encode, Utf8.encode_eq, String.toList_ofList, decodeBytes, length_flatMap_encodeList]
  rw [if_neg (by omega), decodeOnto_encodeList]
  rfl

end RunLedger.Text.Hex
