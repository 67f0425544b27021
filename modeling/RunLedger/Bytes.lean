/-!
# Byte strings

Everything that is stored or sent is a `Bytes`, a plain list of octets. Numbers are written with a fixed number of
digits in base 256, most significant first (`ofNatBE`) or least significant first (`ofNatLE`). `Block n` is a byte
string of exactly `n` octets.

* `toNatBE_ofNatBE`, `toNatLE_ofNatLE`: a number that fits its width reads back.
* `split?_eq_some_iff`: `split? n` succeeds exactly on byte strings of at least `n` octets.
-/

namespace RunLedger

/-- A byte string. -/
abbrev Bytes := List UInt8

namespace Bytes

/-- The first `n` octets in front of a byte string. -/
def listOnto (octets : ByteArray) : (n : Nat) → n ≤ octets.size → Bytes → Bytes
  | 0, _, rest => rest
  | n + 1, h, rest => listOnto octets n (Nat.le_of_succ_le h) (octets[n] :: rest)

theorem listOnto_eq (octets : ByteArray) (n : Nat) (h : n ≤ octets.size) (rest : Bytes) :
    listOnto octets n h rest = octets.data.toList.take n ++ rest := by
  induction n generalizing rest with
  | zero => simp [listOnto]
  | succ n ih =>
    have hn : n < octets.data.toList.length := by simpa using Nat.lt_of_succ_le h
    rw [listOnto, ih, List.take_succ_eq_append_getElem hn]
    simp [ByteArray.getElem_eq_getElem_data]

/-- The byte string of an array of octets. -/
def ofArray (octets : ByteArray) : Bytes := listOnto octets octets.size (Nat.le_refl _) []

theorem ofArray_eq (octets : ByteArray) : ofArray octets = octets.data.toList := by
  rw [ofArray, listOnto_eq, List.append_nil, List.take_of_length_le (by simp)]

/-- The `width` low base-256 digits of a number, most significant first. -/
def ofNatBE : Nat → Nat → Bytes
  | 0, _ => []
  | width + 1, n => ofNatBE width (n / 256) ++ [UInt8.ofNat (n % 256)]

/-- The number whose base-256 digits are given, most significant first. -/
def toNatBE (bytes : Bytes) : Nat := bytes.foldl (fun n b => n * 256 + b.toNat) 0

/-- The `width` low base-256 digits of a number, least significant first. -/
def ofNatLE : Nat → Nat → Bytes
  | 0, _ => []
  | width + 1, n => UInt8.ofNat (n % 256) :: ofNatLE width (n / 256)

/-- The number whose base-256 digits are given, least significant first. -/
def toNatLE : Bytes → Nat
  | [] => 0
  | b :: rest => b.toNat + 256 * toNatLE rest

@[simp] theorem length_ofNatBE (width n : Nat) : (ofNatBE width n).length = width := by
  induction width generalizing n with
  | zero => rfl
  | succ width ih => simp [ofNatBE, ih]

@[simp] theorem length_ofNatLE (width n : Nat) : (ofNatLE width n).length = width := by
  induction width generalizing n with
  | zero => rfl
  | succ width ih => simp [ofNatLE, ih]

theorem toNatBE_append_singleton (bytes : Bytes) (b : UInt8) :
    toNatBE (bytes ++ [b]) = toNatBE bytes * 256 + b.toNat := by
  simp [toNatBE]

/-- A number below `256 ^ width` is read back from its big-endian digits. -/
theorem toNatBE_ofNatBE {width n : Nat} (h : n < Nat.pow 256 width) : toNatBE (ofNatBE width n) = n := by
  induction width generalizing n with
  | zero => simp at h; simp [ofNatBE, toNatBE, h]
  | succ width ih =>
    have h : n < Nat.pow 256 width * 256 := h
    rw [ofNatBE, toNatBE_append_singleton, ih (by omega)]
    simp
    omega

/-- A number below `256 ^ width` is read back from its little-endian digits. -/
theorem toNatLE_ofNatLE {width n : Nat} (h : n < Nat.pow 256 width) : toNatLE (ofNatLE width n) = n := by
  induction width generalizing n with
  | zero => simp at h; simp [ofNatLE, toNatLE, h]
  | succ width ih =>
    have h : n < Nat.pow 256 width * 256 := h
    rw [ofNatLE, toNatLE, ih (by omega)]
    simp
    omega

/-- The reversed first `n` octets pushed on `taken`, and what follows them. -/
def splitOnto? : Nat → Bytes → Bytes → Option (Bytes × Bytes)
  | 0, taken, rest => some (taken, rest)
  | _ + 1, _, [] => none
  | n + 1, taken, b :: rest => splitOnto? n (b :: taken) rest

/-- The first `n` octets and what follows them, if there are that many. -/
def split? (n : Nat) (bytes : Bytes) : Option (Bytes × Bytes) :=
  (splitOnto? n [] bytes).map fun (taken, rest) => (taken.reverse, rest)

theorem splitOnto?_eq (n : Nat) (taken bytes : Bytes) : splitOnto? n taken bytes =
    if n ≤ bytes.length then some ((bytes.take n).reverse ++ taken, bytes.drop n) else none := by
  induction n generalizing taken bytes with
  | zero => simp [splitOnto?]
  | succ n ih => cases bytes <;> simp [splitOnto?, ih]

theorem split?_eq (n : Nat) (bytes : Bytes) :
    split? n bytes = if n ≤ bytes.length then some (bytes.take n, bytes.drop n) else none := by
  rw [split?, splitOnto?_eq]
  split <;> simp

/-- Splitting succeeds exactly when the front has the asked length and the parts make up the whole. -/
theorem split?_eq_some_iff {n : Nat} {bytes front rest : Bytes} :
    split? n bytes = some (front, rest) ↔ front.length = n ∧ bytes = front ++ rest := by
  rw [split?_eq]
  constructor
  · intro h
    split at h
    · cases h; simp; omega
    · cases h
  · rintro ⟨rfl, rfl⟩
    simp

end Bytes

/-- A byte string of exactly `n` octets. -/
structure Block (n : Nat) where
  bytes : Bytes
  length_bytes : bytes.length = n
  deriving DecidableEq, Repr

namespace Block

/-- The block that writes the low digits of a number, most significant first. -/
def ofNat (width n : Nat) : Block width := ⟨Bytes.ofNatBE width n, Bytes.length_ofNatBE width n⟩

/-- The number that a block writes, most significant octet first. -/
def toNat {n : Nat} (block : Block n) : Nat := Bytes.toNatBE block.bytes

/-- A byte string as a block, if it has the right length. -/
def ofBytes? (n : Nat) (bytes : Bytes) : Option (Block n) :=
  if h : bytes.length = n then some ⟨bytes, h⟩ else none

instance {n : Nat} : Inhabited (Block n) := ⟨ofNat n 0⟩

@[ext] theorem ext {n : Nat} {a b : Block n} (h : a.bytes = b.bytes) : a = b := by
  cases a; cases b; cases h; rfl

@[simp] theorem ofBytes?_bytes {n : Nat} (block : Block n) : ofBytes? n block.bytes = some block := by
  simp [ofBytes?, block.length_bytes]

theorem ofBytes?_eq_some_iff {n : Nat} {bytes : Bytes} {block : Block n} :
    ofBytes? n bytes = some block ↔ block.bytes = bytes := by
  constructor
  · intro h
    unfold ofBytes? at h
    split at h
    · cases h; rfl
    · cases h
  · rintro rfl
    simp

end Block

end RunLedger
