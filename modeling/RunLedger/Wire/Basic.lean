import RunLedger.Text.Utf8

/-!
# The compact binary form

Numbers are written in groups of seven bits, least significant first, with the high bit set on all octets but the last.
Byte strings and texts are written with their length in front, lists with their count in front. The reader accepts
numbers with unneeded groups, as long as they keep to the most octets that a number of their width can take.

* `readVarint_varint`: a number that fits its width reads back, whatever follows.
* `readText_text`, `readList_list`: so do texts and lists.
-/

namespace RunLedger.Wire

/-- Why octets are not what was asked for. -/
inductive Error where
  /-- The octets end too early. -/
  | unexpectedEnd
  /-- A number takes too many octets, or its last one too many bits. -/
  | badVarint
  /-- A text is no UTF-8. -/
  | badText
  /-- What was read is not allowed where it stands. -/
  | badValue
  deriving DecidableEq, Repr

/-- The wording of a fault. -/
def Error.message : Error → String
  | .unexpectedEnd => "Hit the end of buffer, expected more data"
  | .badVarint => "Found a varint that didn't terminate. Is the usize too big for this platform?"
  | .badText => "Tried to parse invalid utf-8"
  | .badValue => "Serde Deserialization Error"

/-- Takes a value from the front of a byte string. -/
abbrev Reader (α : Type) := Bytes → Except Error (α × Bytes)

/-- A value that takes no octets. -/
def Reader.pure {α : Type} (a : α) : Reader α := fun bytes => .ok (a, bytes)

/-- One value, then what follows from it. -/
def Reader.bind {α β : Type} (r : Reader α) (f : α → Reader β) : Reader β := fun bytes =>
  match r bytes with
  | .ok (a, rest) => f a rest
  | .error e => .error e

instance : Monad Reader where
  pure := Reader.pure
  bind := Reader.bind

/-- A fault instead of a value. -/
def Reader.fail {α : Type} (e : Error) : Reader α := fun _ => .error e

/-- A value, or a fault where there is none. -/
def Reader.ofOption {α : Type} : Option α → Reader α
  | some a => Reader.pure a
  | none => Reader.fail .badValue

/-! ## Numbers -/

/-- The seven-bit groups of a number. -/
def varint (n : Nat) : Bytes :=
  if n < 128 then [UInt8.ofNat n] else UInt8.ofNat (n % 128 + 128) :: varint (n / 128)
termination_by n

/-- A number of at most `more + 1` groups whose last one, if all are used, is at most `last`. -/
def readVarint (last : Nat) : Nat → Reader Nat
  | _, [] => .error .unexpectedEnd
  | 0, b :: rest => if b.toNat ≤ last then .ok (b.toNat, rest) else .error .badVarint
  | more + 1, b :: rest =>
    if b.toNat < 128 then .ok (b.toNat, rest)
    else
      match readVarint last more rest with
      | .ok (n, rest) => .ok (b.toNat - 128 + 128 * n, rest)
      | .error e => .error e

/-- A 64-bit number: ten groups, the last of one bit. -/
def readU64 : Reader Nat := readVarint 1 9

/-- A 32-bit number: five groups, the last of four bits. -/
def readU32 : Reader Nat := readVarint 15 4

/-! ## Byte strings, texts and lists -/

/-- As many octets as asked for. -/
def take (n : Nat) : Reader Bytes := fun bytes =>
  match Bytes.split? n bytes with
  | some parts => .ok parts
  | none => .error .unexpectedEnd

/-- A byte string with its length in front. -/
def blob (bytes : Bytes) : Bytes := varint bytes.length ++ bytes

/-- A byte string with its length in front. -/
def readBlob : Reader Bytes := do
  let n ← readU64
  take n

/-- A text with its length in front. -/
def text (s : String) : Bytes := blob (Text.Utf8.encode s)

/-- A text with its length in front. -/
def readText : Reader String := do
  let bytes ← readBlob
  match Text.Utf8.decode bytes with
  | .ok s => pure s
  | .error _ => Reader.fail .badText

/-- The values read so far (latest first) and this many more, one after the other. -/
def readMany {α : Type} (r : Reader α) (read : List α) : Nat → Reader (List α)
  | 0, bytes => .ok (read.reverse, bytes)
  | n + 1, bytes =>
    match r bytes with
    | .ok (a, rest) => readMany r (a :: read) n rest
    | .error e => .error e

/-- A list with its count in front. -/
def list {α : Type} (write : α → Bytes) (xs : List α) : Bytes := varint xs.length ++ xs.flatMap write

/-- A list with its count in front. -/
def readList {α : Type} (r : Reader α) : Reader (List α) := do
  let n ← readU64
  readMany r [] n

/-! ## What is written reads back -/

theorem readVarint_varint {last more n : Nat} (h : n < (last + 1) * Nat.pow 128 more) (hl : last < 128) (rest : Bytes) :
    readVarint last more (varint n ++ rest) = .ok (n, rest) := by
  induction more generalizing n with
  | zero =>
    have hn : n < 128 := by simp at h; omega
    have hb : (UInt8.ofNat n).toNat = n := by simp; omega
    rw [varint, if_pos hn]
    simp only [List.cons_append, List.nil_append, readVarint, hb]
    rw [if_pos (by simp at h; omega)]
  | succ more ih =>
    rw [varint]
    split
    · have hb : (UInt8.ofNat n).toNat = n := by simp; omega
      simp only [List.cons_append, List.nil_append, readVarint, hb]
      rw [if_pos (by assumption)]
    · have hb : (UInt8.ofNat (n % 128 + 128)).toNat = n % 128 + 128 := by simp; omega
      have hd : n / 128 < (last + 1) * Nat.pow 128 more := by
        have h : n < (last + 1) * (Nat.pow 128 more * 128) := h
        exact (Nat.div_lt_iff_lt_mul (by omega)).mpr (by rw [Nat.mul_assoc]; exact h)
      simp only [List.cons_append, readVarint, hb]
      rw [if_neg (by omega), ih hd]
      simp only [Except.ok.injEq, Prod.mk.injEq, and_true]
      omega

theorem readU64_varint {n : Nat} (h : n < UInt64.size) (rest : Bytes) : readU64 (varint n ++ rest) = .ok (n, rest) :=
  readVarint_varint (show n < 2 * Nat.pow 128 9 from h) (by omega) rest

theorem readU32_varint {n : Nat} (h : n < UInt32.size) (rest : Bytes) : readU32 (varint n ++ rest) = .ok (n, rest) :=
  readVarint_varint (show n < 16 * Nat.pow 128 4 from h) (by omega) rest

theorem take_append {n : Nat} {front : Bytes} (h : front.length = n) (rest : Bytes) :
    take n (front ++ rest) = .ok (front, rest) := by
  rw [take, Bytes.split?_eq_some_iff.mpr ⟨h, rfl⟩]

@[simp] theorem bind_apply {α β : Type} (r : Reader α) (f : α → Reader β) (bytes : Bytes) :
    (r >>= f) bytes = match r bytes with
      | .ok (a, rest) => f a rest
      | .error e => .error e := rfl

@[simp] theorem pure_apply {α : Type} (a : α) (bytes : Bytes) : (pure a : Reader α) bytes = .ok (a, bytes) := rfl

theorem readBlob_blob {bytes : Bytes} (h : bytes.length < UInt64.size) (rest : Bytes) :
    readBlob (blob bytes ++ rest) = .ok (bytes, rest) := by
  simp only [readBlob, blob, bind_apply, List.append_assoc, readU64_varint h, take_append rfl]

theorem readText_text {s : String} (h : (Text.Utf8.encode s).length < UInt64.size) (rest : Bytes) :
    readText (text s ++ rest) = .ok (s, rest) := by
  simp only [readText, text, bind_apply, readBlob_blob h, Text.Utf8.decode_encode, pure_apply]

theorem readMany_flatMap {α : Type} {r : Reader α} {write : α → Bytes} {xs : List α}
    (h : ∀ x ∈ xs, ∀ rest, r (write x ++ rest) = .ok (x, rest)) (read : List α) (rest : Bytes) :
    readMany r read xs.length (xs.flatMap write ++ rest) = .ok (read.reverse ++ xs, rest) := by
  induction xs generalizing read with
  | nil => simp [readMany]
  | cons x xs ih =>
    simp only [List.length_cons, readMany, List.flatMap_cons, List.append_assoc, h x List.mem_cons_self,
      ih fun y hy => h y (List.mem_cons_of_mem _ hy)]
    simp

theorem readList_list {α : Type} {r : Reader α} {write : α → Bytes} {xs : List α} (hn : xs.length < UInt64.size)
    (h : ∀ x ∈ xs, ∀ rest, r (write x ++ rest) = .ok (x, rest)) (rest : Bytes) :
    readList r (list write xs ++ rest) = .ok (xs, rest) := by
  simp only [readList, list, bind_apply, List.append_assoc, readU64_varint hn, readMany_flatMap h,
    List.reverse_nil, List.nil_append]

end RunLedger.Wire
