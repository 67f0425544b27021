import RunLedger.Guest.Memory

/-!
# Values in guest memory

How texts and lists of texts lie in guest memory. A text is a slice that holds its UTF-8 octets. A list of texts is
packed: one slice with the octets of all of them and one with an entry of eight octets for each, its offset there and
its length, both least significant octet first. Both sides refuse buffers and lists above their limits before they look
at them.

* `check_ok_iff`, `checkPacked_ok_iff`: what the limits let pass.
* `grows_encodeText`, `grows_encodeTexts`: placing never touches what was in use, even if it fails half way.
* `readText_encodeText`: a placed text is read back by whoever has the same limits.
-/

namespace RunLedger

/-- The longest buffer and the longest list that are handled. -/
structure MarshalLimits where
  maxBuffer : Nat
  maxElements : Nat
  deriving DecidableEq, Repr

/-- The limits where none are given. -/
def MarshalLimits.standard : MarshalLimits := ⟨1048576, 4096⟩

instance : Inhabited MarshalLimits := ⟨.standard⟩

namespace MarshalLimits

/-- Refuses a buffer that is too long. -/
def check (limits : MarshalLimits) (length : Nat) : Except MarshalError Unit :=
  if length ≤ limits.maxBuffer then .ok () else .error (.tooLarge length limits.maxBuffer)

/-- Refuses a list that is too long. -/
def checkCount (limits : MarshalLimits) (count : Nat) : Except MarshalError Unit :=
  if count ≤ limits.maxElements then .ok () else .error (.tooManyElements count limits.maxElements)

/-- Refuses the first text with which a packed buffer of so many octets before it becomes too long. -/
def checkPacked (limits : MarshalLimits) (before : Nat) : List Bytes → Except MarshalError Unit
  | [] => .ok ()
  | text :: rest => do
    limits.check text.length
    limits.check (before + text.length)
    limits.checkPacked (before + text.length) rest

theorem check_ok_iff {limits : MarshalLimits} {length : Nat} :
    limits.check length = .ok () ↔ length ≤ limits.maxBuffer := by
  unfold check
  split <;> simp_all

theorem checkCount_ok_iff {limits : MarshalLimits} {count : Nat} :
    limits.checkCount count = .ok () ↔ count ≤ limits.maxElements := by
  unfold checkCount
  split <;> simp_all

/-- Texts fit a packed buffer exactly if all their octets together do. -/
theorem checkPacked_ok_iff {limits : MarshalLimits} {before : Nat} {texts : List Bytes} (h : before ≤ limits.maxBuffer) :
    limits.checkPacked before texts = .ok () ↔ before + texts.flatten.length ≤ limits.maxBuffer := by
  induction texts generalizing before with
  | nil => simp [checkPacked, h]
  | cons text rest ih =>
    simp only [checkPacked, List.flatten_cons, List.length_append]
    by_cases ht : before + text.length ≤ limits.maxBuffer
    · rw [check_ok_iff.mpr (by omega), check_ok_iff.mpr ht]
      exact (ih ht).trans (by omega)
    · have hbad : limits.check (before + text.length) = .error (.tooLarge (before + text.length) limits.maxBuffer) := by
        simp [check, ht]
      constructor
      · intro hok
        cases hc : limits.check text.length with
        | error e => rw [hc] at hok; cases hok
        | ok _ => rw [hc, hbad] at hok; cases hok
      · intro hle
        omega

end MarshalLimits

/-- Something that is done to guest memory, whether it succeeds or not. -/
def Marshalling (α : Type) := GuestMemory → Except MarshalError α × GuestMemory

namespace Marshalling

instance : Monad Marshalling where
  pure a := fun m => (.ok a, m)
  bind x f := fun m =>
    match x m with
    | (.ok a, m') => f a m'
    | (.error e, m') => (.error e, m')

/-- A test, which leaves the memory alone. -/
def test (r : Except MarshalError Unit) : Marshalling Unit := fun m => (r, m)

/-- A placement, which leaves the memory alone if it fails. -/
def step (f : GuestMemory → Except MarshalError (Slice × GuestMemory)) : Marshalling Slice := fun m =>
  match f m with
  | .ok (s, m') => (.ok s, m')
  | .error e => (.error e, m)

theorem pure_apply {α : Type} (a : α) (m : GuestMemory) : (pure a : Marshalling α) m = (.ok a, m) := rfl

theorem bind_ok_iff {α β : Type} {x : Marshalling α} {f : α → Marshalling β} {m m' : GuestMemory} {b : β} :
    (x >>= f) m = (.ok b, m') ↔ ∃ a n, x m = (.ok a, n) ∧ f a n = (.ok b, m') := by
  show (match x m with
    | (.ok a, m') => f a m'
    | (.error e, m') => (.error e, m')) = _ ↔ _
  cases x m with
  | mk r n =>
    cases r with
    | error e => simp
    | ok a => exact ⟨fun h => ⟨a, n, rfl, h⟩, fun ⟨_, _, h, h'⟩ => by cases h; exact h'⟩

theorem test_ok_iff {r : Except MarshalError Unit} {m m' : GuestMemory} {u : Unit} :
    test r m = (.ok u, m') ↔ r = .ok () ∧ m' = m := by
  simp [test, eq_comm]

theorem step_ok_iff {f : GuestMemory → Except MarshalError (Slice × GuestMemory)} {m m' : GuestMemory} {s : Slice} :
    step f m = (.ok s, m') ↔ f m = .ok (s, m') := by
  unfold step
  split <;> simp_all

/-- Whatever comes of it, the memory only grows. -/
def Grows {α : Type} (x : Marshalling α) : Prop := ∀ m, ∃ tail, (x m).2 = m.extend tail

theorem grows_pure {α : Type} (a : α) : Grows (pure a) := fun m => ⟨[], m.extend_nil.symm⟩

theorem grows_bind {α β : Type} {x : Marshalling α} {f : α → Marshalling β} (hx : Grows x) (hf : ∀ a, Grows (f a)) :
    Grows (x >>= f) := fun m => by
  obtain ⟨tail, ht⟩ := hx m
  show ∃ tail, (match x m with
    | (.ok a, m') => f a m'
    | (.error e, m') => (.error e, m')).2 = _
  cases hr : x m with
  | mk r n =>
    rw [hr] at ht
    cases r with
    | error e => exact ⟨tail, ht⟩
    | ok a =>
      obtain ⟨tail', ht'⟩ := hf a n
      exact ⟨tail ++ tail', by rw [ht', show n = _ from ht, GuestMemory.extend_extend]⟩

theorem grows_test (r : Except MarshalError Unit) : Grows (test r) := fun m => ⟨[], m.extend_nil.symm⟩

theorem grows_place (data : Bytes) : Grows (step (·.place data)) := fun m => by
  cases h : m.place data with
  | error e => exact ⟨[], by simp [step, h, GuestMemory.extend_nil]⟩
  | ok r => exact ⟨data, by simp [step, h, (GuestMemory.place_ok_iff.mp h).2.2.2]⟩

end Marshalling

namespace GuestMemory

/-- Octets of a table entry. -/
def entrySize : Nat := 8

/-- Places a buffer. -/
def encodeBytes (limits : MarshalLimits) (bytes : Bytes) : Marshalling Slice := do
  Marshalling.test (limits.check bytes.length)
  Marshalling.step (·.place bytes)

/-- Places a text. -/
def encodeText (limits : MarshalLimits) (text : String) : Marshalling Slice :=
  encodeBytes limits (Text.Utf8.encode text)

/-- The table of texts that are packed behind so many octets. -/
def tableOf (offset : Nat) : List Bytes → Bytes
  | [] => []
  | text :: rest => Bytes.ofNatLE 4 offset ++ Bytes.ofNatLE 4 text.length ++ tableOf (offset + text.length) rest

/-- Places a list of texts, their octets first and the table behind them. -/
def encodeTexts (limits : MarshalLimits) (texts : List String) : Marshalling PackedTexts := do
  let pieces := texts.map Text.Utf8.encode
  Marshalling.test (limits.checkCount texts.length)
  Marshalling.test (limits.checkPacked 0 pieces)
  let data ← Marshalling.step (·.place pieces.flatten)
  let table ← Marshalling.step (·.place (tableOf 0 pieces))
  return ⟨data, table, UInt32.ofNat texts.length⟩

/-- The octets of a buffer. -/
def readBytes (m : GuestMemory) (limits : MarshalLimits) (s : Slice) : Except MarshalError Bytes := do
  limits.check s.length.toNat
  m.read s

/-- Octets that were found at an offset as a text. -/
def textAt (start : UInt32) (bytes : Bytes) : Except MarshalError String :=
  (Text.Utf8.decode bytes).mapError (.invalidUtf8 start)

/-- The text of a slice. -/
def readText (m : GuestMemory) (limits : MarshalLimits) (s : Slice) : Except MarshalError String := do
  let bytes ← m.readBytes limits s
  textAt s.start bytes

/-- The text that a table entry gives, by its offset and its length in the packed octets. -/
def readEntry (data : Buffer) (start : UInt32) (entry offset length : Nat) : Except MarshalError String :=
  if offset + length ≤ data.size then
    textAt (UInt32.ofNat (min (start.toNat + offset) (UInt32.size - 1))) (data.slice offset (offset + length)).toList
  else .error (.malformedTable entry)

/-- The texts that the entries of a table give, from an entry on. -/
def readEntries (data : Buffer) (start : UInt32) (entry : Nat) : Bytes → Except MarshalError (List String)
  | a :: b :: c :: d :: e :: f :: g :: h :: rest => do
    let text ← readEntry data start entry (Bytes.toNatLE [a, b, c, d]) (Bytes.toNatLE [e, f, g, h])
    let texts ← readEntries data start (entry + 1) rest
    return text :: texts
  | _ => .ok []

/-- The texts of a packed list. -/
def readTexts (m : GuestMemory) (limits : MarshalLimits) (p : PackedTexts) : Except MarshalError (List String) := do
  limits.checkCount p.count.toNat
  if p.table.length.toNat ≠ p.count.toNat * entrySize then .error (.malformedTable 0)
  limits.check p.data.length.toNat
  let table ← m.read p.table
  let data ← m.piece p.data
  readEntries data p.data.start 0 table

/-- The text in front of the first zero of a slice. -/
def readPadded (m : GuestMemory) (s : Slice) : Except MarshalError String := do
  let bytes ← m.read s
  textAt s.start (bytes.takeWhile (· ≠ 0))

/-- A text is placed exactly if it is not too long and there is room for it. -/
theorem encodeText_ok_iff {limits : MarshalLimits} {text : String} {m m' : GuestMemory} {s : Slice} :
    encodeText limits text m = (.ok s, m') ↔
      (Text.Utf8.encode text).length ≤ limits.maxBuffer ∧ m.place (Text.Utf8.encode text) = .ok (s, m') := by
  simp only [encodeText, encodeBytes, Marshalling.bind_ok_iff, Marshalling.test_ok_iff, Marshalling.step_ok_iff,
    MarshalLimits.check_ok_iff]
  constructor
  · rintro ⟨-, n, ⟨h, rfl⟩, hp⟩
    exact ⟨h, hp⟩
  · rintro ⟨h, hp⟩
    exact ⟨(), m, ⟨h, rfl⟩, hp⟩

theorem grows_encodeText (limits : MarshalLimits) (text : String) : (encodeText limits text).Grows :=
  Marshalling.grows_bind (Marshalling.grows_test _) fun _ => Marshalling.grows_place _

theorem grows_encodeTexts (limits : MarshalLimits) (texts : List String) : (encodeTexts limits texts).Grows :=
  Marshalling.grows_bind (Marshalling.grows_test _) fun _ =>
    Marshalling.grows_bind (Marshalling.grows_test _) fun _ =>
      Marshalling.grows_bind (Marshalling.grows_place _) fun _ =>
        Marshalling.grows_bind (Marshalling.grows_place _) fun _ => Marshalling.grows_pure _

/-- A placed text is read back by whoever has the same limits. -/
theorem readText_encodeText {limits : MarshalLimits} {text : String} {m m' : GuestMemory} {s : Slice}
    (h : encodeText limits text m = (.ok s, m')) : m'.readText limits s = .ok text := by
  obtain ⟨hfit, hplace⟩ := encodeText_ok_iff.mp h
  have hread : m'.readBytes limits s = .ok (Text.Utf8.encode text) := by
    rw [readBytes, (place_ok_iff.mp hplace).2.2.1, MarshalLimits.check_ok_iff.mpr hfit]
    exact read_place hplace
  rw [readText, hread]
  show textAt s.start (Text.Utf8.encode text) = _
  rw [textAt, Text.Utf8.decode_encode]
  rfl

end GuestMemory

end RunLedger
