import RunLedger.Bytes

/-!
# Buffers

Octets that are kept in one piece: what memories and files hold, which grow at their end, are cut, and are written in the
middle, whatever their size. Zeros at the end are only counted, so that a large empty room costs nothing. A buffer stands
for a byte string, `toList`; each operation is an operation on that.

* `toList_append`, `toList_slice`, `toList_overwrite`: what the operations do to the byte string.
* `toList_inj`: there is one buffer for each byte string.
-/

namespace RunLedger

/-- No octets do not end in a zero. -/
theorem Buffer.isTrimmed_empty : ByteArray.empty.data.toList.getLast? ≠ some 0 := nofun

/-- A byte string in one piece, but for the zeros at its end. -/
structure Buffer where
  octets : ByteArray := .empty
  /-- The number of zeros behind the octets. -/
  zeros : Nat := 0
  /-- All zeros at the end are counted. -/
  isTrimmed : octets.data.toList.getLast? ≠ some 0 := by exact Buffer.isTrimmed_empty

namespace Buffer

instance : Inhabited Buffer := ⟨{}⟩

/-- The byte string of a buffer. -/
def toList (b : Buffer) : Bytes := Bytes.listOnto b.octets b.octets.size (Nat.le_refl _) (List.replicate b.zeros 0)

/-- The number of octets. -/
def size (b : Buffer) : Nat := b.octets.size + b.zeros

/-! ## Growing -/

/-- Octets with so many zeros behind them. -/
def pushZeros (octets : ByteArray) : Nat → ByteArray
  | 0 => octets
  | n + 1 => pushZeros (octets.push 0) n

/-- The buffer of octets, zeros, and a byte string behind them. -/
def appendOnto (octets : ByteArray) (zeros : Nat) (h : octets.data.toList.getLast? ≠ some 0) : Bytes → Buffer
  | [] => ⟨octets, zeros, h⟩
  | a :: rest =>
    if ha : a = 0 then appendOnto octets (zeros + 1) h rest
    else appendOnto ((pushZeros octets zeros).push a) 0 (by simp [ha]) rest

/-- The buffer with a byte string behind its octets. -/
def append (b : Buffer) (bytes : Bytes) : Buffer := appendOnto b.octets b.zeros b.isTrimmed bytes

/-- The buffer of a byte string. -/
def ofList (bytes : Bytes) : Buffer := append {} bytes

/-- The buffer with so many zeros behind its octets. -/
def appendZeros (b : Buffer) (count : Nat) : Buffer := { b with zeros := b.zeros + count }

/-- A buffer with another behind it. -/
def concat (a b : Buffer) : Buffer :=
  if h : b.octets.size = 0 then { a with zeros := a.zeros + b.zeros }
  else ⟨pushZeros a.octets a.zeros ++ b.octets, b.zeros, by
    have hb : b.octets.data ≠ #[] := fun hb => h (by rw [← ByteArray.size_data, hb]; rfl)
    simpa [hb] using b.isTrimmed⟩

/-! ## Cutting -/

theorem le_size_of_succ_le {octets : ByteArray} {n : Nat} (h : n + 1 ≤ octets.size) : n ≤ octets.size :=
  Nat.le_of_succ_le h

/-- How many of the first `n` octets are left without the zeros at their end. -/
def trimmedSize (octets : ByteArray) : (n : Nat) → n ≤ octets.size → Nat
  | 0, _ => 0
  | n + 1, h => if octets[n] = 0 then trimmedSize octets n (le_size_of_succ_le h) else n + 1

/-- How many octets are left without the zeros at their end. -/
def trimmed (octets : ByteArray) : Nat := trimmedSize octets octets.size Nat.le.refl

theorem trimmedSize_le (octets : ByteArray) (n : Nat) (h : n ≤ octets.size) : trimmedSize octets n h ≤ n := by
  induction n with
  | zero => exact Nat.le_refl 0
  | succ n ih =>
    rw [trimmedSize]
    split
    · exact Nat.le_succ_of_le (ih _)
    · exact Nat.le_refl _

theorem take_trimmedSize (octets : ByteArray) (n : Nat) (h : n ≤ octets.size) :
    (octets.data.toList.take (trimmedSize octets n h)).getLast? ≠ some 0 ∧
      octets.data.toList.take n =
        octets.data.toList.take (trimmedSize octets n h) ++ List.replicate (n - trimmedSize octets n h) 0 := by
  induction n with
  | zero => simp [trimmedSize]
  | succ n ih =>
    have hn : n < octets.data.toList.length := by simpa using Nat.lt_of_succ_le h
    have hle := trimmedSize_le octets n (Nat.le_of_succ_le h)
    rw [trimmedSize, List.take_succ_eq_append_getElem hn]
    split
    · rename_i h0
      have h0' : octets.data.toList[n] = 0 := by simpa [ByteArray.getElem_eq_getElem_data] using h0
      refine ⟨(ih _).1, ?_⟩
      rw [(ih (Nat.le_of_succ_le h)).2, h0', List.append_assoc, Nat.succ_sub hle, List.replicate_succ']
    · rename_i h0
      have h0' : octets.data.toList[n] ≠ 0 := by simpa [ByteArray.getElem_eq_getElem_data] using h0
      rw [List.take_succ_eq_append_getElem hn]
      simpa using h0'

theorem extract_trimmed (octets : ByteArray) : (octets.extract 0 (trimmed octets)).data.toList.getLast? ≠ some 0 := by
  have h := (take_trimmedSize octets octets.size (Nat.le_refl _)).1
  simpa [trimmed, ByteArray.data_extract, List.extract_eq_take_drop] using h

/-- The buffer of octets with so many zeros behind them. -/
def trim (octets : ByteArray) (zeros : Nat) : Buffer :=
  ⟨octets.extract 0 (trimmed octets), octets.size - trimmed octets + zeros, extract_trimmed octets⟩

/-- The octets from one place up to another. -/
def slice (b : Buffer) (start stop : Nat) : Buffer :=
  trim (b.octets.extract start stop) (min stop b.size - max start b.octets.size)

/-- The buffer with others in place of its octets from a place on. The place must not lie behind them. -/
def overwrite (b : Buffer) (start : Nat) (middle : Buffer) : Buffer :=
  ((b.slice 0 start).concat middle).concat (b.slice (start + middle.size) b.size)

/-! ## The byte string -/

/-- The byte string of a buffer is the list of its octets and zeros. -/
theorem toList_eq (b : Buffer) : b.toList = b.octets.data.toList ++ List.replicate b.zeros 0 := by
  rw [toList, Bytes.listOnto_eq, List.take_of_length_le (by simp)]

@[simp] theorem length_toList (b : Buffer) : b.toList.length = b.size := by
  simp [toList_eq, size, ByteArray.size_data]

/-- What ends in no zero is all that is left without the zeros that were put behind it. -/
theorem dropWhile_reverse_append_zeros {l : Bytes} (h : l.getLast? ≠ some 0) (n : Nat) :
    (l ++ List.replicate n 0).reverse.dropWhile (· = 0) = l.reverse := by
  rw [List.reverse_append, List.reverse_replicate, List.dropWhile_append]
  have h' : l.reverse.head? ≠ some 0 := by simpa using h
  have hr : l.reverse.dropWhile (· = 0) = l.reverse := by
    cases hl : l.reverse with
    | nil => rfl
    | cons a rest => simp_all
  simp [hr]

/-- There is one buffer for each byte string. -/
theorem toList_inj {a b : Buffer} : a.toList = b.toList ↔ a = b := by
  constructor
  · intro h
    have hz := congrArg List.length h
    have hd := congrArg (fun l : Bytes => l.reverse.dropWhile (· = 0)) h
    simp only [toList_eq, dropWhile_reverse_append_zeros a.isTrimmed, dropWhile_reverse_append_zeros b.isTrimmed,
      List.reverse_inj] at hd
    obtain ⟨⟨⟨oa⟩⟩, za, _⟩ := a
    obtain ⟨⟨⟨ob⟩⟩, zb, _⟩ := b
    simp only [toList_eq, List.length_append, List.length_replicate] at hz
    simp only at hd
    subst hd
    congr
    omega
  · rintro rfl
    rfl

instance : DecidableEq Buffer := fun a b => decidable_of_iff (a.toList = b.toList) toList_inj

@[simp] theorem toList_empty : ({} : Buffer).toList = [] := rfl

@[simp] theorem toList_pushZeros (octets : ByteArray) (n : Nat) :
    (pushZeros octets n).data.toList = octets.data.toList ++ List.replicate n 0 := by
  induction n generalizing octets with
  | zero => simp [pushZeros]
  | succ n ih => simp [pushZeros, ih, ByteArray.data_push, List.replicate_succ]

@[simp] theorem toList_append (b : Buffer) (bytes : Bytes) : (b.append bytes).toList = b.toList ++ bytes := by
  induction bytes generalizing b with
  | nil => simp [append, appendOnto]
  | cons a rest ih =>
    rw [append, appendOnto]
    split
    · rename_i ha
      refine (ih { b with zeros := b.zeros + 1 }).trans ?_
      simp [toList_eq, ha, List.replicate_succ']
    · rename_i ha
      refine (ih ⟨(pushZeros b.octets b.zeros).push a, 0, by simp [ha]⟩).trans ?_
      simp [toList_eq]

@[simp] theorem toList_ofList (bytes : Bytes) : (ofList bytes).toList = bytes := by simp [ofList]

@[simp] theorem toList_appendZeros (b : Buffer) (count : Nat) :
    (b.appendZeros count).toList = b.toList ++ List.replicate count 0 := by
  simp [toList_eq, appendZeros, List.append_assoc, List.replicate_append_replicate]

/-- Zeros are appended as any octets are. -/
theorem appendZeros_eq (b : Buffer) (count : Nat) : b.appendZeros count = b.append (List.replicate count 0) := by
  rw [← toList_inj, toList_appendZeros, toList_append]

@[simp] theorem toList_concat (a b : Buffer) : (a.concat b).toList = a.toList ++ b.toList := by
  unfold concat
  split
  · rename_i h
    have hb : b.octets.data.toList = [] := List.length_eq_zero_iff.mp (by simpa using h)
    simp [toList_eq, hb, List.append_assoc, List.replicate_append_replicate]
  · simp [toList_eq, ByteArray.data_append, List.append_assoc]

@[simp] theorem toList_trim (octets : ByteArray) (zeros : Nat) :
    (trim octets zeros).toList = octets.data.toList ++ List.replicate zeros 0 := by
  have h := (take_trimmedSize octets octets.size (Nat.le_refl _)).2
  rw [List.take_of_length_le (by simp)] at h
  rw [toList_eq, trim]
  conv => rhs; rw [h]
  simp [trimmed, ByteArray.data_extract, List.extract_eq_take_drop, List.append_assoc, List.replicate_append_replicate]

@[simp] theorem toList_slice (b : Buffer) (start stop : Nat) :
    (b.slice start stop).toList = (b.toList.drop start).take (stop - start) := by
  rw [slice, toList_trim, toList_eq, List.drop_append, List.take_append, List.drop_replicate, List.take_replicate]
  simp only [ByteArray.data_extract, Array.toList_extract, List.extract_eq_take_drop, List.length_drop, Array.length_toList,
    ByteArray.size_data, size]
  congr 2
  omega

@[simp] theorem size_append (b : Buffer) (bytes : Bytes) : (b.append bytes).size = b.size + bytes.length := by
  rw [← length_toList, toList_append, List.length_append, length_toList]

@[simp] theorem size_appendZeros (b : Buffer) (count : Nat) : (b.appendZeros count).size = b.size + count :=
  (Nat.add_assoc ..).symm

@[simp] theorem size_ofList (bytes : Bytes) : (ofList bytes).size = bytes.length := by
  rw [← length_toList, toList_ofList]

@[simp] theorem toList_overwrite (b : Buffer) (start : Nat) (middle : Buffer) :
    (b.overwrite start middle).toList = b.toList.take start ++ (middle.toList ++ b.toList.drop (start + middle.size)) := by
  have h : (b.slice (start + middle.size) b.size).toList = b.toList.drop (start + middle.size) := by
    rw [toList_slice]
    exact List.take_of_length_le (by simp)
  rw [overwrite, toList_concat, toList_concat, h]
  simp

end Buffer

end RunLedger
