import RunLedger.Bytes

/-!
# UTF-8

`encode` writes a text as UTF-8 and `decode` reads it back. A byte string that is no UTF-8 is refused with the place of
the first fault: how many octets before it form valid text, and either the length of the longest prefix of a sequence
found there (one to three octets) or the fact that the input ends inside a sequence.

* `scalarHead_utf8EncodeChar`: a written character is read back, whatever follows it.
* `decode_encode`: a written text is read back.
-/

namespace RunLedger.Text.Utf8

/-- The octets of a text. -/
def encode (s : String) : Bytes := Bytes.ofArray s.toByteArray

/-- A text is written character by character. -/
theorem encode_eq (s : String) : encode s = s.toList.flatMap String.utf8EncodeChar := by
  have h : s.toByteArray = s.toList.utf8Encode := by rw [← String.toByteArray_ofList, String.ofList_toList]
  rw [encode, Bytes.ofArray_eq, h]
  simp [List.utf8Encode]

/-- Why the octets at some place are no character. -/
inductive Fault where
  /-- The first octets, this many, start no longer sequence with what follows. -/
  | malformed (length : Nat)
  /-- The input ends inside a sequence. -/
  | incomplete
  deriving DecidableEq, Repr

/-- A fault and the number of octets of valid text before it. -/
structure Error where
  validUpTo : Nat
  fault : Fault
  deriving DecidableEq, Repr

/-- The wording of a fault. -/
def Error.message (e : Error) : String :=
  match e.fault with
  | .malformed n => s!"invalid utf-8 sequence of {n} bytes from index {e.validUpTo}"
  | .incomplete => s!"incomplete utf-8 byte sequence from index {e.validUpTo}"

/-- The scalar value of a sequence whose octets so far, `seen` of them, give `value`: `missing` octets follow, the next
one between `lo` and `hi`, the others between `0x80` and `0xBF`, and each adds its low six bits. -/
def gather (value seen : Nat) : Nat → Nat → Nat → Bytes → Except Fault (Nat × Bytes)
  | 0, _, _, rest => .ok (value, rest)
  | _ + 1, _, _, [] => .error .incomplete
  | missing + 1, lo, hi, b :: rest =>
    if lo ≤ b.toNat ∧ b.toNat ≤ hi then gather (value * 64 + (b.toNat - 0x80)) (seen + 1) missing 0x80 0xBF rest
    else .error (.malformed seen)

/-- The scalar value of the sequence that starts with octet `b`, and the octets after it. -/
@[inline] def scalarHead (b : UInt8) (rest : Bytes) : Except Fault (Nat × Bytes) :=
  let n := b.toNat
  if n < 0x80 then .ok (n, rest)
  else if n < 0xC2 then .error (.malformed 1)
  else if n < 0xE0 then gather (n - 0xC0) 1 1 0x80 0xBF rest
  else if n < 0xF0 then
    gather (n - 0xE0) 1 2 (if n = 0xE0 then 0xA0 else 0x80) (if n = 0xED then 0x9F else 0xBF) rest
  else if n < 0xF5 then
    gather (n - 0xF0) 1 3 (if n = 0xF0 then 0x90 else 0x80) (if n = 0xF4 then 0x8F else 0xBF) rest
  else .error (.malformed 1)

/-- The character that starts with octet `b`, and the octets after it. -/
@[inline] def decodeHead (b : UInt8) (rest : Bytes) : Except Fault (Char × Bytes) :=
  (scalarHead b rest).map fun (n, rest) => (Char.ofNat n, rest)

theorem gather_length {missing value seen lo hi n : Nat} {bytes rest : Bytes}
    (h : gather value seen missing lo hi bytes = .ok (n, rest)) : rest.length ≤ bytes.length := by
  induction missing generalizing value seen lo hi bytes with
  | zero => cases h; exact Nat.le_refl _
  | succ missing ih =>
    cases bytes with
    | nil => cases h
    | cons b bytes =>
      simp only [gather] at h
      split at h
      · exact Nat.le_succ_of_le (ih h)
      · cases h

theorem scalarHead_length {b : UInt8} {bytes rest : Bytes} {n : Nat} (h : scalarHead b bytes = .ok (n, rest)) :
    rest.length ≤ bytes.length := by
  simp only [scalarHead] at h
  split at h
  · cases h; exact Nat.le_refl _
  split at h
  · cases h
  split at h
  · exact gather_length h
  split at h
  · exact gather_length h
  split at h
  · exact gather_length h
  · cases h

/-- Reading a character leaves no more octets than followed its first. -/
theorem decodeHead_length {b : UInt8} {bytes rest : Bytes} {c : Char} (h : decodeHead b bytes = .ok (c, rest)) :
    rest.length ≤ bytes.length := by
  unfold decodeHead at h
  cases hs : scalarHead b bytes with
  | error f => rw [hs] at h; cases h
  | ok p => rw [hs] at h; cases h; exact scalarHead_length (n := p.1) hs

/-- The characters read so far, latest first, followed by those of the remaining octets. -/
def decodeOnto (read : List Char) (offset : Nat) (bytes : Bytes) : Except Error (List Char) :=
  match bytes with
  | [] => .ok read.reverse
  | b :: rest =>
    match h : decodeHead b rest with
    | .error fault => .error ⟨offset, fault⟩
    | .ok (c, rest') =>
      have := decodeHead_length h
      decodeOnto (c :: read) (offset + c.utf8Size) rest'
termination_by bytes.length
decreasing_by simp; omega

/-- The text that a byte string writes, or the first fault in it. -/
def decode (bytes : Bytes) : Except Error String := (decodeOnto [] 0 bytes).map String.ofList

theorem toNat_ofNat_of_lt {k : Nat} (h : k < 256) : (UInt8.ofNat k).toNat = k := by simp; omega

/-- A written character is read back, whatever follows it. -/
theorem scalarHead_utf8EncodeChar (c : Char) : ∃ b tail, String.utf8EncodeChar c = b :: tail ∧
    ∀ rest, scalarHead b (tail ++ rest) = .ok (c.toNat, rest) := by
  have hc : c.toNat < 0xD800 ∨ 0xDFFF < c.toNat ∧ c.toNat < 0x110000 := c.valid
  unfold String.utf8EncodeChar
  simp only [Char.toNat] at hc ⊢
  generalize c.val.toNat = n at hc ⊢
  split
  · refine ⟨_, _, rfl, fun rest => ?_⟩
    simp only [scalarHead]
    rw [toNat_ofNat_of_lt (by omega), if_pos (by omega)]
    rfl
  split
  · refine ⟨_, _, rfl, fun rest => ?_⟩
    have h1 := toNat_ofNat_of_lt (k := n / 64 % 32 + 192) (by omega)
    have h2 := toNat_ofNat_of_lt (k := n % 64 + 128) (by omega)
    simp only [scalarHead, h1, List.cons_append, List.nil_append, gather, h2]
    rw [if_neg (by omega), if_neg (by omega), if_pos (by omega), if_pos (by omega)]
    simp
    omega
  split
  · refine ⟨_, _, rfl, fun rest => ?_⟩
    have h1 := toNat_ofNat_of_lt (k := n / 4096 % 16 + 224) (by omega)
    have h2 := toNat_ofNat_of_lt (k := n / 64 % 64 + 128) (by omega)
    have h3 := toNat_ofNat_of_lt (k := n % 64 + 128) (by omega)
    simp only [scalarHead, h1, List.cons_append, List.nil_append, gather, h2, h3]
    rw [if_neg (by omega), if_neg (by omega), if_neg (by omega), if_pos (by omega),
      if_pos (by split <;> split <;> omega), if_pos (by omega)]
    simp
    omega
  · refine ⟨_, _, rfl, fun rest => ?_⟩
    have h1 := toNat_ofNat_of_lt (k := n / 262144 % 8 + 240) (by omega)
    have h2 := toNat_ofNat_of_lt (k := n / 4096 % 64 + 128) (by omega)
    have h3 := toNat_ofNat_of_lt (k := n / 64 % 64 + 128) (by omega)
    have h4 := toNat_ofNat_of_lt (k := n % 64 + 128) (by omega)
    simp only [scalarHead, h1, List.cons_append, List.nil_append, gather, h2, h3, h4]
    rw [if_neg (by omega), if_neg (by omega), if_neg (by omega), if_neg (by omega), if_pos (by omega),
      if_pos (by split <;> split <;> omega), if_pos (by omega), if_pos (by omega)]
    simp
    omega

theorem decodeOnto_flatMap (read : List Char) (offset : Nat) (cs : List Char) :
    decodeOnto read offset (cs.flatMap String.utf8EncodeChar) = .ok (read.reverse ++ cs) := by
  induction cs generalizing read offset with
  | nil => simp [decodeOnto]
  | cons c cs ih =>
    obtain ⟨b, tail, he, hs⟩ := scalarHead_utf8EncodeChar c
    have hd : decodeHead b (tail ++ cs.flatMap String.utf8EncodeChar) = .ok (c, cs.flatMap String.utf8EncodeChar) := by
      simp [decodeHead, hs, Except.map, Char.ofNat_toNat]
    rw [List.flatMap_cons, he, List.cons_append, decodeOnto]
    split
    · rename_i h; rw [hd] at h; cases h
    · rename_i h; rw [hd] at h; cases h; rw [ih]; simp

/-- A written text is read back. -/
theorem decode_encode (s : String) : decode (encode s) = .ok s := by
  simp [decode, encode_eq, decodeOnto_flatMap, Except.map]

end RunLedger.Text.Utf8
