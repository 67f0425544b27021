import RunLedger.Buffer
import RunLedger.Text.Utf8

/-!
# Guest memory

The memory of a guest is a byte string that grows at its end, up to a limit. What is placed there is passed around as a
`Slice`, an offset and a length of 32 bits each. A call places its arguments, and when it is over the memory is cut back
to where it ended before (`release`), so a slice means something for the time of one call only.

* `place_ok_iff`: octets can be placed exactly if there is room for them, and then lie at the end of what was in use.
* `read_place`: what was placed reads back.
* `bytes_write`: a write changes what is in its slice, and all of that.
* `release_place`: cutting the memory back undoes a placement.
-/

namespace RunLedger

/-- A region of guest memory. -/
structure Slice where
  start : UInt32
  length : UInt32
  deriving DecidableEq, Repr, Inhabited

namespace Slice

/-- The offset behind the last octet. -/
def stop (s : Slice) : Nat := s.start.toNat + s.length.toNat

/-- The offset behind the last octet, if it has 32 bits. -/
def stop? (s : Slice) : Option UInt32 := if s.stop < UInt32.size then some (UInt32.ofNat s.stop) else none

end Slice

/-- Texts in guest memory: their octets one after the other, and a table with the place of each among them. -/
structure PackedTexts where
  data : Slice
  table : Slice
  count : UInt32
  deriving DecidableEq, Repr, Inhabited

/-- Why something cannot be placed in guest memory or taken from it. -/
inductive MarshalError where
  /-- A buffer is longer than allowed. -/
  | tooLarge (length limit : Nat)
  /-- A list has more elements than allowed. -/
  | tooManyElements (count limit : Nat)
  /-- Octets at an offset are no text. -/
  | invalidUtf8 (start : UInt32) (fault : Text.Utf8.Error)
  /-- A slice reaches behind the memory in use. -/
  | outOfBounds (slice : Slice) (size : Nat)
  /-- The limit of the memory leaves too little room. -/
  | outOfMemory (requested available : Nat)
  /-- The table of packed texts is wrong at an entry. -/
  | malformedTable (entry : Nat)
  deriving DecidableEq, Repr

/-- A number in upper-case hexadecimal. -/
def hexNumber (n : Nat) : String := String.ofList ((Nat.toDigits 16 n).map Char.toUpper)

/-- The wording of a fault. -/
def MarshalError.message : MarshalError → String
  | .tooLarge length limit => s!"Buffer of {length} bytes exceeds limit of {limit}"
  | .tooManyElements count limit => s!"Array of {count} elements exceeds limit of {limit}"
  | .invalidUtf8 start fault => "Invalid UTF-8 at 0x" ++ hexNumber start.toNat ++ ": " ++ fault.message
  | .outOfBounds slice size =>
    "Slice 0x" ++ hexNumber slice.start.toNat ++ s!"+{slice.length} outside guest memory of {size} bytes"
  | .outOfMemory requested available =>
    s!"Out of guest memory: requested {requested} bytes, {available} available"
  | .malformedTable entry => s!"Malformed string array table at entry {entry}"

/-- How far a guest memory may grow. -/
structure MemoryLimit where
  maxBytes : UInt32
  deriving DecidableEq, Repr

namespace MemoryLimit

/-- Octets in a page. -/
def pageSize : Nat := 65536

/-- So many pages, or as many octets as a limit can say. -/
def ofPages (pages : UInt32) : MemoryLimit := ⟨UInt32.ofNat (min (pages.toNat * pageSize) (UInt32.size - 1))⟩

/-- Whether a number of octets is within the limit. -/
def allows (limit : MemoryLimit) (count : Nat) : Bool := count ≤ limit.maxBytes.toNat

/-- The limit where none is given: 256 pages. -/
def standard : MemoryLimit := ofPages 256

instance : Inhabited MemoryLimit := ⟨standard⟩

end MemoryLimit

/-- The octets in use, and how many there may be. -/
structure GuestMemory where
  content : Buffer
  limit : MemoryLimit
  deriving DecidableEq

namespace GuestMemory

/-- No octets in use. -/
def empty (limit : MemoryLimit) : GuestMemory := ⟨{}, limit⟩

/-- The memory with these octets in use. -/
def of (data : Bytes) (limit : MemoryLimit) : GuestMemory := ⟨.ofList data, limit⟩

/-- The octets in use. -/
def bytes (m : GuestMemory) : Bytes := m.content.toList

/-- The number of octets in use. -/
def used (m : GuestMemory) : Nat := m.content.size

/-- The memory with more octets in use at its end. -/
def extend (m : GuestMemory) (data : Bytes) : GuestMemory := { m with content := m.content.append data }

/-- The octets of a slice, in one piece. -/
def piece (m : GuestMemory) (s : Slice) : Except MarshalError Buffer :=
  if s.stop < UInt32.size ∧ s.stop ≤ m.used then .ok (m.content.slice s.start.toNat s.stop)
  else .error (.outOfBounds s m.used)

/-- The octets of a slice. -/
def read (m : GuestMemory) (s : Slice) : Except MarshalError Bytes := (m.piece s).map Buffer.toList

/-- Writes octets to the front of a slice and zeros to the rest of it. -/
def write (m : GuestMemory) (s : Slice) (data : Bytes) : Except MarshalError GuestMemory :=
  if s.stop < UInt32.size ∧ s.stop ≤ m.used then
    if data.length ≤ s.length.toNat then
      let filled := (Buffer.ofList data).appendZeros (s.length.toNat - data.length)
      .ok { m with content := m.content.overwrite s.start.toNat filled }
    else .error (.tooLarge data.length s.length.toNat)
  else .error (.outOfBounds s m.used)

/-- A new slice of a given length at the end of the memory, if there is room, for what is put there. -/
def reserve (m : GuestMemory) (length : Nat) (put : Buffer → Buffer) : Except MarshalError (Slice × GuestMemory) :=
  if m.limit.allows (m.used + length) then
    .ok (⟨UInt32.ofNat m.used, UInt32.ofNat length⟩, { m with content := put m.content })
  else .error (.outOfMemory length (m.limit.maxBytes.toNat - m.used))

/-- Places octets at the end of the memory. -/
def place (m : GuestMemory) (data : Bytes) : Except MarshalError (Slice × GuestMemory) :=
  m.reserve data.length (·.append data)

/-- Places zeros at the end of the memory. -/
def placeZeros (m : GuestMemory) (count : Nat) : Except MarshalError (Slice × GuestMemory) :=
  m.reserve count (·.appendZeros count)

/-- The octets of the longest buffer that can be made. -/
def longestBuffer : Nat := 9223372036854775807

/-- Makes a buffer of zeros and places it at the end of the memory. Nothing if no buffer is so long. -/
def placeBuffer? (m : GuestMemory) (count : Nat) : Option (Except MarshalError (Slice × GuestMemory)) :=
  if count ≤ longestBuffer then some (m.placeZeros count) else none

/-- Cuts the memory back to its first octets. -/
def release (m : GuestMemory) (mark : Nat) : GuestMemory := { m with content := m.content.slice 0 mark }

/-- Memories with the same octets and the same limit are the same. -/
@[ext] theorem ext {m n : GuestMemory} (hb : m.bytes = n.bytes) (hl : m.limit = n.limit) : m = n := by
  cases m
  cases n
  cases hl
  exact congrArg (GuestMemory.mk · _) (Buffer.toList_inj.mp hb)

@[simp] theorem bytes_of (data : Bytes) (limit : MemoryLimit) : (of data limit).bytes = data := by simp [of, bytes]

@[simp] theorem length_bytes (m : GuestMemory) : m.bytes.length = m.used := m.content.length_toList

@[simp] theorem bytes_extend (m : GuestMemory) (data : Bytes) : (m.extend data).bytes = m.bytes ++ data := by
  simp [extend, bytes]

@[simp] theorem used_extend (m : GuestMemory) (data : Bytes) : (m.extend data).used = m.used + data.length := by
  simp [extend, used]

@[simp] theorem bytes_release (m : GuestMemory) (mark : Nat) : (m.release mark).bytes = m.bytes.take mark := by
  simp [release, bytes]

theorem extend_nil (m : GuestMemory) : m.extend [] = m := rfl

theorem extend_extend (m : GuestMemory) (a b : Bytes) : (m.extend a).extend b = m.extend (a ++ b) := by
  ext1
  · simp
  · rfl

/-- Cutting the memory back undoes what it grew by. -/
theorem release_extend (m : GuestMemory) (data : Bytes) : (m.extend data).release m.used = m := by
  ext1
  · simp [← length_bytes]
  · simp only [release, extend]

/-- A slice inside the memory in use is read from there. -/
theorem read_eq (m : GuestMemory) (s : Slice) :
    m.read s = if s.stop < UInt32.size ∧ s.stop ≤ m.used then .ok ((m.bytes.drop s.start.toNat).take s.length.toNat)
      else .error (.outOfBounds s m.used) := by
  unfold read piece
  split
  · simp [Except.map, bytes, Slice.stop]
  · rfl

/-- What a write leaves: the octets around the slice, and in it what was written and zeros. -/
theorem bytes_write {m m' : GuestMemory} {s : Slice} {data : Bytes} (h : m.write s data = .ok m') :
    m'.bytes = m.bytes.take s.start.toNat ++
      ((data ++ List.replicate (s.length.toNat - data.length) 0) ++ m.bytes.drop s.stop) := by
  unfold write at h
  split at h
  · split at h
    · rename_i hl
      rw [← Except.ok.inj h]
      have hlen : data.length + (s.length.toNat - data.length) = s.length.toNat := by omega
      simp only [bytes, Buffer.toList_overwrite, Buffer.appendZeros_eq, Buffer.toList_append, Buffer.toList_ofList,
        Buffer.size_append, Buffer.size_ofList, List.length_replicate, hlen, Slice.stop]
    · cases h
  · cases h

/-- A buffer is placed unless it is too long for one. -/
theorem placeBuffer?_eq_none_iff {m : GuestMemory} {count : Nat} : m.placeBuffer? count = none ↔ longestBuffer < count := by
  simp [placeBuffer?]

theorem placeZeros_eq (m : GuestMemory) (count : Nat) : m.placeZeros count = m.place (List.replicate count 0) := by
  simp [placeZeros, place, reserve, Buffer.appendZeros_eq]

/-- Octets can be placed exactly if there is room for them, and then lie at the end of what was in use. -/
theorem place_ok_iff {m m' : GuestMemory} {data : Bytes} {s : Slice} :
    m.place data = .ok (s, m') ↔ m.used + data.length ≤ m.limit.maxBytes.toNat ∧
      s.start.toNat = m.used ∧ s.length.toNat = data.length ∧ m' = m.extend data := by
  have hlt := m.limit.maxBytes.toNat_lt
  unfold place reserve MemoryLimit.allows
  split
  · rename_i h
    simp only [decide_eq_true_eq] at h
    constructor
    · rintro ⟨⟩
      refine ⟨h, ?_, ?_, rfl⟩ <;> simp <;> omega
    · rintro ⟨-, h1, h2, rfl⟩
      obtain ⟨start, length⟩ := s
      have hs : start = UInt32.ofNat m.used := UInt32.toNat_inj.mp (by simp only [UInt32.toNat_ofNat'] at *; omega)
      have hl : length = UInt32.ofNat data.length := UInt32.toNat_inj.mp (by simp only [UInt32.toNat_ofNat'] at *; omega)
      rw [hs, hl]
      rfl
  · rename_i h
    simp only [decide_eq_true_eq] at h
    simp [h]

/-- What was placed reads back. -/
theorem read_place {m m' : GuestMemory} {data : Bytes} {s : Slice} (h : m.place data = .ok (s, m')) :
    m'.read s = .ok data := by
  obtain ⟨hroom, hstart, hlength, rfl⟩ := place_ok_iff.mp h
  have hlt := m.limit.maxBytes.toNat_lt
  have hstop : s.stop = m.used + data.length := by simp [Slice.stop, hstart, hlength]
  rw [read_eq, if_pos (by rw [used_extend, hstop, UInt32.size]; omega), hstart, hlength, bytes_extend, ← length_bytes]
  simp

/-- Cutting the memory back undoes a placement. -/
theorem release_place {m m' : GuestMemory} {data : Bytes} {s : Slice} (h : m.place data = .ok (s, m')) :
    m'.release m.used = m := by
  obtain ⟨-, -, -, rfl⟩ := place_ok_iff.mp h
  exact release_extend m data

end GuestMemory

end RunLedger
