import RunLedger.Proofs.Guest.Packing
import RunLedger.Proofs.Text.Utf8

/-!
# Packed texts of any origin

The host takes packed texts from a memory that it does not trust: slices, counts and tables may be anything. What it
reads is described by the table alone, entry by entry (`entryOf`). An entry is good if it lies among the packed octets and
these octets are a text there (`Entry.Gives`), and an element of the list is read from nothing else.

* `readEntries_spec`: a table is read to its end if all entries are good, and else up to the first one that is not, whose
  fault is the answer.
* `readTexts_spec`: when packed texts are read, what is read then, and which fault is reported if not.
* `encodeTexts_spec`: texts are packed exactly if the limits allow it, no number of 32 bits is cut short, and they are read
  back whatever is placed behind them.
-/

namespace RunLedger

/-- Two readings that are the same if a condition holds; and if it does not, the first one fails. -/
def Guarded {ε α : Type} (x : Except ε α) (p : Prop) (y : Except ε α) : Prop := (p → x = y) ∧ (¬p → ∃ e, x = .error e)

namespace Guarded

variable {ε α β : Type} {x y : Except ε β} {p q : Prop}

theorem refl (x : Except ε β) : Guarded x True x := ⟨fun _ => rfl, fun h => absurd trivial h⟩

theorem congr (h : Guarded x p y) (hpq : p ↔ q) : Guarded x q y :=
  ⟨fun hq => h.1 (hpq.mpr hq), fun hq => h.2 fun hp => hq (hpq.mp hp)⟩

/-- A test that fails in front of a reading. -/
theorem test (h : Guarded x q y) (c : Prop) [Decidable c] (e : ε) {f : Unit → Except ε β} :
    Guarded (if c then Except.error e >>= f else x) (¬c ∧ q) y := by
  by_cases hc : c
  · rw [if_pos hc]
    exact ⟨fun h => absurd hc h.1, fun _ => ⟨e, rfl⟩⟩
  · rw [if_neg hc]
    exact h.congr ⟨fun hq => ⟨hc, hq⟩, And.right⟩

end Guarded

/-- A reading in front of another one. -/
theorem Gives.guarded {ε α β : Type} {x : Except ε α} {f : α → Except ε β} {y : Except ε β} {p q : Prop} {a : α}
    (hx : Gives x p a) (hf : Guarded (f a) q y) : Guarded (x >>= f) (p ∧ q) y := by
  by_cases hp : p
  · have h : (x >>= f) = f a := by rw [hx.1 hp]; rfl
    rw [h]
    exact hf.congr ⟨fun hq => ⟨hp, hq⟩, And.right⟩
  · obtain ⟨e, he⟩ := hx.2 hp
    exact ⟨fun h => absurd h.1 hp, fun _ => ⟨e, by rw [he]; rfl⟩⟩

namespace GuestMemory

/-! ## Entries -/

/-- Where a text lies among packed octets. -/
@[ext] structure Entry where
  offset : Nat
  length : Nat
  deriving DecidableEq, Repr

/-- The entry of a table at an index. -/
def entryOf (table : Bytes) (i : Nat) : Entry where
  offset := Bytes.toNatLE ((table.drop (i * entrySize)).take 4)
  length := Bytes.toNatLE ((table.drop (i * entrySize + 4)).take 4)

namespace Entry

/-- The packed octets that an entry speaks of. -/
def octets (e : Entry) (data : Bytes) : Bytes := (data.drop e.offset).take e.length

/-- An entry that lies among the packed octets, where a text stands. -/
def Gives (e : Entry) (data : Bytes) (text : String) : Prop :=
  e.offset + e.length ≤ data.length ∧ Text.Utf8.encode text = e.octets data

/-- An entry that gives some text. -/
def Good (e : Entry) (data : Bytes) : Prop := ∃ text, e.Gives data text

/-- What is wrong with an entry: it reaches behind the packed octets, or what stands there is no text. -/
inductive Fault (e : Entry) (data : Bytes) (start : UInt32) (i : Nat) : MarshalError → Prop
  | outside (h : data.length < e.offset + e.length) : Fault e data start i (.malformedTable i)
  | noText (h : e.offset + e.length ≤ data.length) {fault : Text.Utf8.Error}
      (hd : Text.Utf8.decode (e.octets data) = .error fault) :
      Fault e data start i (.invalidUtf8 (UInt32.ofNat (min (start.toNat + e.offset) (UInt32.size - 1))) fault)

/-- A faulty entry is not good. -/
theorem Fault.not_good {e : Entry} {data : Bytes} {start : UInt32} {i : Nat} {err : MarshalError}
    (h : e.Fault data start i err) : ¬e.Good data := by
  rintro ⟨text, hinside, htext⟩
  cases h with
  | outside h => omega
  | noText _ hd =>
    rw [Text.Utf8.decode_eq_ok_iff.mpr htext] at hd
    cases hd

end Entry

/-- **An entry is read if it is good, as the text that it gives, and else its fault is reported.** -/
theorem readEntry_spec (data : Buffer) (start : UInt32) (i : Nat) (e : Entry) :
    (∃ text, readEntry data start i e.offset e.length = .ok text ∧ e.Gives data.toList text) ∨
      ∃ err, readEntry data start i e.offset e.length = .error err ∧ e.Fault data.toList start i err := by
  rw [readEntry]
  split
  · rename_i h
    have hinside : e.offset + e.length ≤ data.toList.length := by rw [Buffer.length_toList]; exact h
    have hoctets : (data.slice e.offset (e.offset + e.length)).toList = e.octets data.toList := by
      rw [Buffer.toList_slice, Nat.add_sub_cancel_left, Entry.octets]
    rw [hoctets, textAt]
    cases hd : Text.Utf8.decode (e.octets data.toList) with
    | ok text => exact Or.inl ⟨text, rfl, hinside, Text.Utf8.decode_eq_ok_iff.mp hd⟩
    | error fault => exact Or.inr ⟨_, rfl, .noText hinside hd⟩
  · rename_i h
    exact Or.inr ⟨_, rfl, .outside (by rw [Buffer.length_toList]; omega)⟩

/-! ## Tables -/

theorem entryOf_drop (table : Bytes) (i : Nat) : entryOf (table.drop entrySize) i = entryOf table (i + 1) := by
  rw [entryOf, entryOf, List.drop_drop, List.drop_drop]
  congr 4 <;> simp only [entrySize] <;> omega

/-- A table with one entry more. -/
theorem readEntries_succ {data : Buffer} {start : UInt32} {i n : Nat} {table : Bytes}
    (h : table.length = (n + 1) * entrySize) :
    readEntries data start i table = (do
      let text ← readEntry data start i (entryOf table 0).offset (entryOf table 0).length
      let texts ← readEntries data start (i + 1) (table.drop entrySize)
      return text :: texts) := by
  have hlong : entrySize ≤ table.length := by rw [h]; simp only [entrySize]; omega
  have hcut : table = table.take 4 ++ ((table.drop 4).take 4 ++ table.drop entrySize) := by
    have hrest : table.drop entrySize = (table.drop 4).drop 4 := by rw [List.drop_drop]; rfl
    rw [hrest, List.take_append_drop, List.take_append_drop]
  have hoffset : (table.take 4).length = 4 := by rw [List.length_take]; simp only [entrySize] at hlong; omega
  have hlength : ((table.drop 4).take 4).length = 4 := by
    rw [List.length_take, List.length_drop]
    simp only [entrySize] at hlong
    omega
  rw [congrArg (readEntries data start i) hcut, readEntries_append hoffset hlength, entryOf, Nat.zero_mul, Nat.zero_add,
    List.drop_zero]

/-- Texts that the first `n` entries of a table give. -/
structure Reads (data : Bytes) (table : Bytes) (n : Nat) (texts : List String) : Prop where
  length : texts.length = n
  gives : ∀ i text, texts[i]? = some text → (entryOf table i).Gives data text

/-- **A table is read to its end, or up to the first entry that is not good.** -/
theorem readEntries_spec (data : Buffer) (start : UInt32) (first : Nat) {n : Nat} {table : Bytes}
    (h : table.length = n * entrySize) :
    (∃ texts, readEntries data start first table = .ok texts ∧ Reads data.toList table n texts) ∨
      ∃ i err, i < n ∧ (∀ j < i, (entryOf table j).Good data.toList) ∧
        readEntries data start first table = .error err ∧ (entryOf table i).Fault data.toList start (first + i) err := by
  induction n generalizing first table with
  | zero =>
    have hnil : table = [] := List.length_eq_zero_iff.mp (by omega)
    subst hnil
    exact Or.inl ⟨[], rfl, rfl, fun i text hi => by cases hi⟩
  | succ n ih =>
    have hrest : (table.drop entrySize).length = n * entrySize := by
      rw [List.length_drop, h, Nat.succ_mul, Nat.add_sub_cancel]
    rw [readEntries_succ h]
    obtain ⟨text, htext, hgives⟩ | ⟨err, herr, hfault⟩ := readEntry_spec data start first (entryOf table 0)
    · rw [htext]
      obtain ⟨texts, htexts, hlength, hall⟩ | ⟨i, err, hi, hbefore, herr, hfault⟩ := ih (first + 1) hrest
      · refine Or.inl ⟨text :: texts, by rw [htexts]; rfl, by rw [List.length_cons, hlength], ?_⟩
        intro i t hi
        cases i with
        | zero =>
          cases hi
          exact hgives
        | succ i =>
          rw [← entryOf_drop]
          exact hall i t hi
      · -- The first bad entry of the rest is the first one of the whole table, since the entry in front is good.
        refine Or.inr ⟨i + 1, err, by omega, ?_, by rw [herr]; rfl, ?_⟩
        · intro j hj
          cases j with
          | zero => exact ⟨text, hgives⟩
          | succ j =>
            rw [← entryOf_drop]
            exact hbefore j (by omega)
        · rw [entryOf_drop, Nat.add_right_comm] at hfault
          exact hfault
    · exact Or.inr ⟨0, err, by omega, fun j hj => absurd hj (by omega), by rw [herr]; rfl, hfault⟩

/-! ## Memory that is not trusted -/

/-- A slice of the octets in use. -/
def Inside (m : GuestMemory) (s : Slice) : Prop := s.stop < UInt32.size ∧ s.stop ≤ m.used

/-- The octets of a slice. -/
def octets (m : GuestMemory) (s : Slice) : Bytes := (m.bytes.drop s.start.toNat).take s.length.toNat

/-- What is asked of packed texts before their table is read. -/
structure Admits (m : GuestMemory) (limits : MarshalLimits) (p : PackedTexts) : Prop where
  count : p.count.toNat ≤ limits.maxElements
  length_table : p.table.length.toNat = p.count.toNat * entrySize
  length_data : p.data.length.toNat ≤ limits.maxBuffer
  table : m.Inside p.table
  data : m.Inside p.data

theorem gives_piece (m : GuestMemory) (s : Slice) :
    Gives (m.piece s) (m.Inside s) (m.content.slice s.start.toNat s.stop) :=
  ⟨fun h => if_pos h, fun h => ⟨_, if_neg h⟩⟩

theorem gives_read (m : GuestMemory) (s : Slice) : Gives (m.read s) (m.Inside s) (m.octets s) := by
  rw [read_eq]
  exact ⟨fun h => if_pos h, fun h => ⟨_, if_neg h⟩⟩

theorem octets_of_read {m : GuestMemory} {s : Slice} {bytes : Bytes} (h : m.read s = .ok bytes) : m.octets s = bytes := by
  rw [read_eq] at h
  split at h
  · exact Except.ok.inj h
  · cases h

theorem toList_piece (m : GuestMemory) (s : Slice) :
    (m.content.slice s.start.toNat s.stop).toList = m.octets s := by
  rw [Buffer.toList_slice, Slice.stop, Nat.add_sub_cancel_left, octets, bytes]

/-- **The table of packed texts is read if they are admitted, and else they are refused.** -/
theorem guarded_readTexts (m : GuestMemory) (limits : MarshalLimits) (p : PackedTexts) :
    Guarded (m.readTexts limits p) (m.Admits limits p)
      (readEntries (m.content.slice p.data.start.toNat p.data.stop) p.data.start 0 (m.octets p.table)) := by
  let table : Bytes := m.octets p.table
  let data : Buffer := m.content.slice p.data.start.toNat p.data.stop
  have hpiece : Guarded (m.piece p.data >>= fun data => readEntries data p.data.start 0 table) (m.Inside p.data ∧ True)
      (readEntries data p.data.start 0 table) := (m.gives_piece p.data).guarded (Guarded.refl _)
  have hread : Guarded (m.read p.table >>= fun table => m.piece p.data >>= fun data =>
      readEntries data p.data.start 0 table) (m.Inside p.table ∧ m.Inside p.data ∧ True)
      (readEntries data p.data.start 0 table) := (m.gives_read p.table).guarded hpiece
  rw [readTexts]
  refine ((limits.gives_checkCount _).guarded (Guarded.test ((limits.gives_check _).guarded hread) _ _)).congr ⟨?_, ?_⟩
  · rintro ⟨hcount, htable, hdata, hinside, hinside', -⟩
    exact ⟨hcount, Classical.not_not.mp htable, hdata, hinside, hinside'⟩
  · rintro ⟨hcount, htable, hdata, hinside, hinside'⟩
    exact ⟨hcount, Classical.not_not.mpr htable, hdata, hinside, hinside', trivial⟩

/-- All entries whose texts were read are good. -/
theorem Reads.good {data table : Bytes} {n : Nat} {texts : List String} (h : Reads data table n texts) {i : Nat}
    (hi : i < n) : (entryOf table i).Good data := by
  have hi : i < texts.length := by rw [h.length]; exact hi
  exact ⟨texts[i], h.gives i _ (List.getElem?_eq_getElem hi)⟩

theorem length_octets {m : GuestMemory} {s : Slice} (h : m.Inside s) : (m.octets s).length = s.length.toNat := by
  have hstop : s.start.toNat + s.length.toNat ≤ m.used := h.2
  rw [octets, List.length_take, List.length_drop, length_bytes]
  omega

/-- **What can become of packed texts.** All of them are read; or an entry is the first one at fault; or they are not
admitted. -/
theorem readTexts_cases (m : GuestMemory) (limits : MarshalLimits) (p : PackedTexts) :
    (m.Admits limits p ∧ ∃ texts, m.readTexts limits p = .ok texts ∧
      Reads (m.octets p.data) (m.octets p.table) p.count.toNat texts) ∨
    (m.Admits limits p ∧ ∃ i e, i < p.count.toNat ∧
      (∀ j < i, (entryOf (m.octets p.table) j).Good (m.octets p.data)) ∧ m.readTexts limits p = .error e ∧
      (entryOf (m.octets p.table) i).Fault (m.octets p.data) p.data.start i e) ∨
    (¬m.Admits limits p ∧ ∃ e, m.readTexts limits p = .error e) := by
  obtain ⟨hread, hrefused⟩ := guarded_readTexts m limits p
  by_cases h : m.Admits limits p
  · have htable : (m.octets p.table).length = p.count.toNat * entrySize := by
      rw [length_octets h.table, h.length_table]
    have hspec := readEntries_spec (m.content.slice p.data.start.toNat p.data.stop) p.data.start 0 htable
    rw [toList_piece, ← hread h] at hspec
    obtain ⟨texts, htexts, hreads⟩ | ⟨i, e, hi, hbefore, he, hfault⟩ := hspec
    · exact Or.inl ⟨h, texts, htexts, hreads⟩
    · rw [Nat.zero_add] at hfault
      exact Or.inr (Or.inl ⟨h, i, e, hi, hbefore, he, hfault⟩)
  · exact Or.inr (Or.inr ⟨h, hrefused h⟩)

theorem reads_of_readTexts {m : GuestMemory} {limits : MarshalLimits} {p : PackedTexts} {texts : List String}
    (h : m.readTexts limits p = .ok texts) :
    m.Admits limits p ∧ Reads (m.octets p.data) (m.octets p.table) p.count.toNat texts := by
  obtain ⟨hadmits, texts', htexts, hreads⟩ | ⟨_, _, _, _, _, herr, _⟩ | ⟨_, _, herr⟩ := readTexts_cases m limits p
  · rw [h] at htexts
    cases htexts
    exact ⟨hadmits, hreads⟩
  · rw [h] at herr
    cases herr
  · rw [h] at herr
    cases herr

/-- The first entry at fault is the only one in front of which all are good. -/
theorem first_fault {Good : Nat → Prop} {i j : Nat} (hi : ∀ k < i, Good k) (hi' : ¬Good i) (hj : ∀ k < j, Good k)
    (hj' : ¬Good j) : i = j := by
  rcases Nat.lt_trichotomy i j with h | h | h
  · exact absurd (hj i h) hi'
  · exact h
  · exact absurd (hi j h) hj'

/-- **What is read of packed texts is what their table says of their own octets.** They are read exactly if they are
admitted and every entry of the table is good; each text is then written as the octets that its entry speaks of. Else they
are refused, and if only entries are at fault, with the fault of the first of these. What is read depends on nothing but
the octets of the two slices. -/
theorem readTexts_spec (m : GuestMemory) (limits : MarshalLimits) (p : PackedTexts) :
    ((∃ texts, m.readTexts limits p = .ok texts) ↔
      m.Admits limits p ∧ ∀ i < p.count.toNat, (entryOf (m.octets p.table) i).Good (m.octets p.data)) ∧
    (∀ texts, m.readTexts limits p = .ok texts → texts.length = p.count.toNat ∧
      ∀ i text, texts[i]? = some text → (entryOf (m.octets p.table) i).Gives (m.octets p.data) text) ∧
    (¬(m.Admits limits p ∧ ∀ i < p.count.toNat, (entryOf (m.octets p.table) i).Good (m.octets p.data)) →
      ∃ e, m.readTexts limits p = .error e) ∧
    (m.Admits limits p → ∀ i < p.count.toNat, (∀ j < i, (entryOf (m.octets p.table) j).Good (m.octets p.data)) →
      ¬(entryOf (m.octets p.table) i).Good (m.octets p.data) →
      ∃ e, m.readTexts limits p = .error e ∧ (entryOf (m.octets p.table) i).Fault (m.octets p.data) p.data.start i e) ∧
    (m.Admits limits p → ∀ n : GuestMemory, n.Inside p.table → n.Inside p.data → n.octets p.table = m.octets p.table →
      n.octets p.data = m.octets p.data → n.readTexts limits p = m.readTexts limits p) := by
  refine ⟨⟨?_, ?_⟩, ?_, ?_, ?_, ?_⟩
  · rintro ⟨texts, htexts⟩
    obtain ⟨h, hreads⟩ := reads_of_readTexts htexts
    exact ⟨h, fun i hi => hreads.good hi⟩
  · rintro ⟨h, hgood⟩
    obtain ⟨_, texts, htexts, _⟩ | ⟨_, i, _, hi, _, _, hfault⟩ | ⟨hn, _⟩ := readTexts_cases m limits p
    · exact ⟨texts, htexts⟩
    · exact absurd (hgood i hi) hfault.not_good
    · exact absurd h hn
  · intro texts htexts
    obtain ⟨_, hreads⟩ := reads_of_readTexts htexts
    exact ⟨hreads.length, hreads.gives⟩
  · intro hn
    obtain ⟨h, _, _, hreads⟩ | ⟨_, _, e, _, _, herr, _⟩ | ⟨_, e, herr⟩ := readTexts_cases m limits p
    · exact absurd ⟨h, fun i hi => hreads.good hi⟩ hn
    · exact ⟨e, herr⟩
    · exact ⟨e, herr⟩
  · intro h i hi hbefore hbad
    obtain ⟨_, _, _, hreads⟩ | ⟨_, j, e, _, hbefore', herr, hfault⟩ | ⟨hn, _⟩ := readTexts_cases m limits p
    · exact absurd (hreads.good hi) hbad
    · have hij : i = j := first_fault hbefore hbad hbefore' hfault.not_good
      subst hij
      exact ⟨e, herr, hfault⟩
    · exact absurd h hn
  · intro h n htable hdata hsame hsame'
    have hn : n.Admits limits p := ⟨h.count, h.length_table, h.length_data, htable, hdata⟩
    have hpiece : n.content.slice p.data.start.toNat p.data.stop = m.content.slice p.data.start.toNat p.data.stop := by
      rw [← Buffer.toList_inj, toList_piece, toList_piece, hsame']
    rw [(guarded_readTexts n limits p).1 hn, (guarded_readTexts m limits p).1 h, hpiece, hsame]

/-! ## Texts that were packed here -/

/-- Something that is placed in a memory later. -/
inductive Allocation where
  | octets (data : Bytes)
  | zeros (count : Nat)

/-- The memory behind a placement. Without room it is left as it was. -/
def behind (m : GuestMemory) : Except MarshalError (Slice × GuestMemory) → GuestMemory
  | .ok (_, n) => n
  | .error _ => m

/-- The memory behind an allocation. -/
def allocate (m : GuestMemory) : Allocation → GuestMemory
  | .octets data => m.behind (m.place data)
  | .zeros count => m.behind (m.placeZeros count)

/-- The octets of texts, all together. -/
def packedLength (texts : List String) : Nat := (texts.map Text.Utf8.encode).flatten.length

theorem exists_extend_behind (m : GuestMemory) (data : Bytes) : ∃ tail, m.behind (m.place data) = m.extend tail := by
  cases h : m.place data with
  | error e => exact ⟨[], rfl⟩
  | ok r =>
    obtain ⟨_, _, _, hn⟩ := place_ok_iff.mp h
    exact ⟨data, hn⟩

/-- Allocations only add octets at the end. -/
theorem exists_extend_allocate (m : GuestMemory) (as : List Allocation) :
    ∃ tail, as.foldl allocate m = m.extend tail := by
  induction as generalizing m with
  | nil => exact ⟨[], rfl⟩
  | cons a as ih =>
    have hstep : ∃ tail, m.allocate a = m.extend tail := by
      cases a with
      | octets data => exact m.exists_extend_behind data
      | zeros count =>
        rw [allocate, placeZeros_eq]
        exact m.exists_extend_behind _
    obtain ⟨tail, htail⟩ := hstep
    obtain ⟨tail', htail'⟩ := ih (m.extend tail)
    refine ⟨tail ++ tail', ?_⟩
    rw [List.foldl_cons, htail, htail', extend_extend]

theorem entryOf_zero_append {offset length rest : Bytes} (ho : offset.length = 4) (hl : length.length = 4) :
    entryOf (offset ++ length ++ rest) 0 = ⟨Bytes.toNatLE offset, Bytes.toNatLE length⟩ := by
  rw [entryOf, Nat.zero_mul, Nat.zero_add, List.drop_zero, List.append_assoc, ← ho, List.take_left, List.drop_left, ho,
    ← hl, List.take_left]

/-- **No entry of a table is cut short,** as long as the packed octets can be counted with 32 bits. -/
theorem entryOf_tableOf {before : Nat} {pieces : List Bytes} {i : Nat} {piece : Bytes} (hi : pieces[i]? = some piece)
    (hfits : before + pieces.flatten.length < UInt32.size) :
    entryOf (tableOf before pieces) i = ⟨before + (pieces.take i).flatten.length, piece.length⟩ := by
  induction pieces generalizing before i with
  | nil => cases hi
  | cons head pieces ih =>
    rw [List.flatten_cons, List.length_append] at hfits
    have ho := Bytes.length_ofNatLE 4 before
    have hl := Bytes.length_ofNatLE 4 head.length
    cases i with
    | zero =>
      cases hi
      have hbefore : before < Nat.pow 256 4 := by change before < UInt32.size; omega
      have hpiece : piece.length < Nat.pow 256 4 := by change piece.length < UInt32.size; omega
      rw [tableOf, entryOf_zero_append ho hl, Bytes.toNatLE_ofNatLE hbefore, Bytes.toNatLE_ofNatLE hpiece]
      rfl
    | succ i =>
      have hrest : (tableOf before (head :: pieces)).drop entrySize = tableOf (before + head.length) pieces := by
        have hentry : (Bytes.ofNatLE 4 before ++ Bytes.ofNatLE 4 head.length).length = entrySize := by
          rw [List.length_append, ho, hl]
          rfl
        rw [tableOf, ← hentry, List.drop_left]
      rw [← entryOf_drop, hrest, ih hi (by omega), List.take_succ_cons, List.flatten_cons, List.length_append,
        Nat.add_assoc]

theorem encodeTexts_ok_iff {limits : MarshalLimits} {texts : List String} {m n : GuestMemory} {p : PackedTexts} :
    encodeTexts limits texts m = (.ok p, n) ↔ limits.AllowsAll texts ∧ ∃ between,
      m.place (texts.map Text.Utf8.encode).flatten = .ok (p.data, between) ∧
      between.place (tableOf 0 (texts.map Text.Utf8.encode)) = .ok (p.table, n) ∧
      p.count = UInt32.ofNat texts.length := by
  simp only [encodeTexts, Marshalling.bind_ok_iff, Marshalling.test_ok_iff, Marshalling.step_ok_iff,
    MarshalLimits.checkCount_ok_iff, MarshalLimits.checkPacked_ok_iff (Nat.zero_le _), Nat.zero_add,
    Marshalling.pure_apply, Prod.mk.injEq, Except.ok.injEq]
  constructor
  · rintro ⟨_, _, ⟨hcount, rfl⟩, _, _, ⟨hlength, rfl⟩, data, between, hdata, table, _, htable, rfl, rfl⟩
    exact ⟨⟨hcount, hlength⟩, between, hdata, htable, rfl⟩
  · rintro ⟨⟨hcount, hlength⟩, between, hdata, htable, hp⟩
    refine ⟨(), m, ⟨hcount, rfl⟩, (), m, ⟨hlength, rfl⟩, p.data, between, hdata, p.table, n, htable, ?_, rfl⟩
    rw [← hp]

/-- What packing texts does: the octets and a table of them come behind what is in use, and are told exactly. -/
structure Packs (m : GuestMemory) (texts : List String) (p : PackedTexts) (n : GuestMemory) : Prop where
  room : m.used + packedLength texts + 8 * texts.length ≤ m.limit.maxBytes.toNat
  memory_eq : n = m.extend ((texts.map Text.Utf8.encode).flatten ++ tableOf 0 (texts.map Text.Utf8.encode))
  data_start : p.data.start.toNat = m.used
  data_length : p.data.length.toNat = packedLength texts
  table_start : p.table.start.toNat = m.used + packedLength texts
  table_length : p.table.length.toNat = 8 * texts.length
  table_octets : n.octets p.table = tableOf 0 (texts.map Text.Utf8.encode)
  count_eq : p.count.toNat = texts.length

theorem length_tableOf_texts (texts : List String) :
    (tableOf 0 (texts.map Text.Utf8.encode)).length = 8 * texts.length := by
  rw [length_tableOf, List.length_map, entrySize, Nat.mul_comm]

/-- **Whatever is packed is told exactly,** since a memory holds no more than can be counted with 32 bits. -/
theorem packs_of_encodeTexts {limits : MarshalLimits} {texts : List String} {m n : GuestMemory} {p : PackedTexts}
    (h : encodeTexts limits texts m = (.ok p, n)) : limits.AllowsAll texts ∧ m.Packs texts p n := by
  obtain ⟨hall, between, hdata, htable, hcount⟩ := encodeTexts_ok_iff.mp h
  have hoctets := octets_of_read (read_place htable)
  obtain ⟨_, hstart, hlength, rfl⟩ := place_ok_iff.mp hdata
  obtain ⟨hroom, hstart', hlength', rfl⟩ := place_ok_iff.mp htable
  rw [used_extend, length_tableOf_texts, limit_extend] at hroom
  have hlt := m.limit.maxBytes.toNat_lt
  refine ⟨hall, hroom, extend_extend .., hstart, hlength, ?_, ?_, hoctets, ?_⟩
  · rw [hstart', used_extend]
    rfl
  · rw [hlength', length_tableOf_texts]
  · rw [hcount, UInt32.toNat_ofNat', Nat.mod_eq_of_lt]
    omega

theorem exists_encodeTexts_iff {m : GuestMemory} {limits : MarshalLimits} {texts : List String} :
    (∃ p n, encodeTexts limits texts m = (.ok p, n)) ↔ limits.AllowsAll texts ∧
      m.used + packedLength texts + 8 * texts.length ≤ m.limit.maxBytes.toNat := by
  constructor
  · rintro ⟨p, n, h⟩
    obtain ⟨hall, hpacks⟩ := packs_of_encodeTexts h
    exact ⟨hall, hpacks.room⟩
  · rintro ⟨hall, hroom⟩
    obtain ⟨p, hp, _⟩ := (stores_encodeTexts limits texts).ok m hall (by
      rw [List.length_append, length_tableOf_texts, ← Nat.add_assoc]
      exact hroom)
    exact ⟨p, _, hp⟩

/-- Texts that were packed are read back, whatever is placed behind them. -/
theorem readTexts_of_encodeTexts {m n : GuestMemory} {limits : MarshalLimits} {texts : List String} {p : PackedTexts}
    (h : encodeTexts limits texts m = (.ok p, n)) (as : List Allocation) :
    (as.foldl allocate n).readTexts limits p = .ok texts := by
  obtain ⟨hall, hpacks⟩ := packs_of_encodeTexts h
  obtain ⟨tail, htail⟩ := exists_extend_allocate n as
  obtain ⟨q, hq, hreads⟩ := (stores_encodeTexts limits texts).ok m hall (by
    rw [List.length_append, length_tableOf_texts, ← Nat.add_assoc]
    exact hpacks.room)
  rw [h, Prod.mk.injEq, Except.ok.injEq] at hq
  rw [← hq.1] at hreads
  rw [htail, hpacks.memory_eq, extend_extend]
  exact (hreads tail limits).1 hall

theorem Packs.entryOf_eq {m n : GuestMemory} {texts : List String} {p : PackedTexts} (h : m.Packs texts p n) {i : Nat}
    {text : String} (hi : texts[i]? = some text) :
    entryOf (n.octets p.table) i = ⟨packedLength (texts.take i), (Text.Utf8.encode text).length⟩ := by
  have hlt := m.limit.maxBytes.toNat_lt
  have hroom := h.room
  have htotal : 0 + packedLength texts < UInt32.size := by
    rw [Nat.zero_add, UInt32.size]
    omega
  have hpiece : (texts.map Text.Utf8.encode)[i]? = some (Text.Utf8.encode text) := by
    rw [List.getElem?_map, hi]
    rfl
  rw [h.table_octets, entryOf_tableOf hpiece htotal, Nat.zero_add, packedLength, List.map_take]

/-- **Texts are packed exactly if the limits allow it and there is room,** whatever is in the memory and whatever the
limits are. They are then read back, also behind further allocations, and every number that the guest is given, in the
table or beside it, is the one that was meant. -/
theorem encodeTexts_spec (m : GuestMemory) (limits : MarshalLimits) (texts : List String) :
    ((∃ p n, encodeTexts limits texts m = (.ok p, n)) ↔ texts.length ≤ limits.maxElements ∧
      packedLength texts ≤ limits.maxBuffer ∧
      m.used + packedLength texts + 8 * texts.length ≤ m.limit.maxBytes.toNat) ∧
    ∀ p n, encodeTexts limits texts m = (.ok p, n) →
      (∀ as : List Allocation, (as.foldl allocate n).readTexts limits p = .ok texts) ∧
      p.count.toNat = texts.length ∧
      p.data.start.toNat = m.used ∧ p.data.length.toNat = packedLength texts ∧
      p.table.start.toNat = m.used + packedLength texts ∧ p.table.length.toNat = 8 * texts.length ∧
      ∀ i text, texts[i]? = some text →
        entryOf (n.octets p.table) i = ⟨packedLength (texts.take i), (Text.Utf8.encode text).length⟩ := by
  refine ⟨?_, ?_⟩
  · rw [exists_encodeTexts_iff, MarshalLimits.AllowsAll, and_assoc]
    rfl
  · intro p n h
    obtain ⟨-, hpacks⟩ := packs_of_encodeTexts h
    exact ⟨readTexts_of_encodeTexts h, hpacks.count_eq, hpacks.data_start, hpacks.data_length, hpacks.table_start,
      hpacks.table_length, fun i text hi => hpacks.entryOf_eq hi⟩

end GuestMemory

end RunLedger
