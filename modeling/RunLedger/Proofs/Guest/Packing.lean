import RunLedger.Guest.Marshal

/-!
# Values placed in guest memory

When values can be placed in guest memory, and what is read of them there. `Marshalling.Stores` says both of a
marshalling: it succeeds exactly if a condition holds and the octets that it places fit the memory; these then stand at
the end of what was in use, and from then on, whatever is placed behind them, its answer has some property.
`Gives` says when a reading succeeds and what it answers then. Both follow the steps of a `do` block (`Stores.bind`,
`Gives.bind`).

* `stores_encodeText`, `stores_encodeTexts`: texts and lists of texts are placed if they keep to the limits of the
  guest, and then read back by everyone to whose limits they keep, and refused by everyone else.
-/

namespace RunLedger

namespace MarshalLimits

/-- Whether a text is short enough. -/
def Allows (limits : MarshalLimits) (text : String) : Prop := (Text.Utf8.encode text).length ≤ limits.maxBuffer

/-- Whether texts are few enough, and short enough all together. -/
def AllowsAll (limits : MarshalLimits) (texts : List String) : Prop :=
  texts.length ≤ limits.maxElements ∧ (texts.map Text.Utf8.encode).flatten.length ≤ limits.maxBuffer

end MarshalLimits

/-! ## Readings -/

/-- A reading that answers `a` if a condition holds and fails if it does not. -/
def Gives {ε α : Type} (x : Except ε α) (p : Prop) (a : α) : Prop := (p → x = .ok a) ∧ (¬p → ∃ e, x = .error e)

namespace Gives

variable {ε α β : Type} {x : Except ε α} {f : α → Except ε β} {p q : Prop} {a : α} {b : β}

theorem of_ok (h : x = .ok a) : Gives x True a := ⟨fun _ => h, fun hn => absurd trivial hn⟩

theorem bind (hx : Gives x p a) (hf : Gives (f a) q b) : Gives (x >>= f) (p ∧ q) b := by
  by_cases hp : p
  · have h : (x >>= f) = f a := by rw [hx.1 hp]; rfl
    rw [h]
    exact ⟨fun h => hf.1 h.2, fun h => hf.2 fun hq => h ⟨hp, hq⟩⟩
  · obtain ⟨e, he⟩ := hx.2 hp
    exact ⟨fun h => absurd h.1 hp, fun _ => ⟨e, by rw [he]; rfl⟩⟩

theorem congr (h : Gives x p a) (hpq : p ↔ q) : Gives x q a :=
  ⟨fun hq => h.1 (hpq.mpr hq), fun hq => h.2 fun hp => hq (hpq.mp hp)⟩

/-- A reading that goes on with something that cannot fail. -/
theorem andThen (hx : Gives x p a) (hf : f a = .ok b) : Gives (x >>= f) p b :=
  (hx.bind (of_ok hf)).congr (and_iff_left trivial)

/-- A reading whose answer is built into something else. -/
theorem map (hx : Gives x p a) (g : α → β) : Gives (x >>= fun a => pure (g a)) p (g a) := hx.andThen rfl

end Gives

theorem MarshalLimits.gives_check (limits : MarshalLimits) (length : Nat) :
    Gives (limits.check length) (length ≤ limits.maxBuffer) () :=
  ⟨MarshalLimits.check_ok_iff.mpr, fun h => ⟨_, if_neg h⟩⟩

theorem MarshalLimits.gives_checkCount (limits : MarshalLimits) (count : Nat) :
    Gives (limits.checkCount count) (count ≤ limits.maxElements) () :=
  ⟨MarshalLimits.checkCount_ok_iff.mpr, fun h => ⟨_, if_neg h⟩⟩

/-! ## Marshallings -/

@[simp] theorem GuestMemory.limit_extend (m : GuestMemory) (data : Bytes) : (m.extend data).limit = m.limit := rfl

namespace Marshalling

variable {α β : Type} {x : Marshalling α} {f : α → Marshalling β}

theorem bind_of_ok {m n : GuestMemory} {a : α} (h : x m = (.ok a, n)) : (x >>= f) m = f a n := by
  simp only [bind, h]

theorem bind_of_error {m n : GuestMemory} {e : MarshalError} (h : x m = (.error e, n)) :
    (x >>= f) m = (.error e, n) := by
  simp only [bind, h]

/-- What a marshalling does: it succeeds exactly if `fits` holds and there is room for `data`, which then is what the
memory has grown by; and its answer has the property `Shape` in every memory that starts with that one. -/
structure Stores (x : Marshalling α) (fits : Prop) (data : Bytes) (Shape : α → GuestMemory → Prop) : Prop where
  ok : ∀ m : GuestMemory, fits → m.used + data.length ≤ m.limit.maxBytes.toNat →
    ∃ a, x m = (.ok a, m.extend data) ∧ ∀ tail, Shape a (m.extend (data ++ tail))
  error : ∀ m : GuestMemory, ¬(fits ∧ m.used + data.length ≤ m.limit.maxBytes.toNat) → ∃ e n, x m = (.error e, n)

namespace Stores

variable {p q : Prop} {d e : Bytes} {S R : α → GuestMemory → Prop} {T : α → β → GuestMemory → Prop}

theorem imp (h : Stores x p d S) (hpq : p ↔ q) (hde : d = e) (hSR : ∀ a n, S a n → R a n) : Stores x q e R where
  ok m hq hroom := by
    subst hde
    obtain ⟨a, ha, hs⟩ := h.ok m (hpq.mpr hq) hroom
    exact ⟨a, ha, fun tail => hSR _ _ (hs tail)⟩
  error m hn := h.error m fun hp => hn ⟨hpq.mp hp.1, hde ▸ hp.2⟩

/-- A test in front of a marshalling. -/
theorem guard {r : Except MarshalError Unit} (hr : Gives r q ()) (h : Stores x p d S) :
    Stores (test r >>= fun _ => x) (q ∧ p) d S where
  ok m hq hroom := by
    rw [bind_of_ok (test_ok_iff (u := ()).mpr ⟨hr.1 hq.1, rfl⟩)]
    exact h.ok m hq.2 hroom
  error m hn := by
    by_cases hq : q
    · rw [bind_of_ok (test_ok_iff (u := ()).mpr ⟨hr.1 hq, rfl⟩)]
      exact h.error m fun hp => hn ⟨⟨hq, hp.1⟩, hp.2⟩
    · obtain ⟨e, he⟩ := hr.2 hq
      exact ⟨e, m, bind_of_error (by rw [he]; rfl)⟩

/-- Two marshallings: what the first one placed is still there after the second one. -/
theorem bind (hx : Stores x p d S) (hf : ∀ a, Stores (f a) q e (T a)) :
    Stores (x >>= f) (p ∧ q) (d ++ e) fun b n => ∃ a, S a n ∧ T a b n where
  ok m hpq hroom := by
    rw [List.length_append, ← Nat.add_assoc] at hroom
    obtain ⟨a, ha, hs⟩ := hx.ok m hpq.1 (by omega)
    obtain ⟨b, hb, ht⟩ := (hf a).ok (m.extend d) hpq.2 (by simpa using hroom)
    rw [bind_of_ok ha, hb, GuestMemory.extend_extend]
    refine ⟨b, rfl, fun tail => ⟨a, ?_, ?_⟩⟩
    · rw [List.append_assoc]
      exact hs _
    · rw [List.append_assoc, ← GuestMemory.extend_extend]
      exact ht tail
  error m hn := by
    rw [List.length_append, ← Nat.add_assoc] at hn
    by_cases hp : p ∧ m.used + d.length ≤ m.limit.maxBytes.toNat
    · obtain ⟨a, ha, -⟩ := hx.ok m hp.1 hp.2
      rw [bind_of_ok ha]
      exact (hf a).error _ fun hq => hn ⟨⟨hp.1, hq.1⟩, by simpa using hq.2⟩
    · obtain ⟨err, n, he⟩ := hx.error m hp
      exact ⟨err, n, bind_of_error he⟩

/-- A marshalling whose answer is built into something else. -/
theorem map (hx : Stores x p d S) (g : α → β) :
    Stores (x >>= fun a => pure (g a)) p d fun b n => ∃ a, S a n ∧ b = g a where
  ok m hp hroom := by
    obtain ⟨a, ha, hs⟩ := hx.ok m hp hroom
    exact ⟨g a, by rw [bind_of_ok ha, pure_apply], fun tail => ⟨a, hs tail, rfl⟩⟩
  error m hn := by
    obtain ⟨err, n, he⟩ := hx.error m hn
    exact ⟨err, n, bind_of_error he⟩

end Stores

/-- Placed octets are read back, whatever is placed behind them. -/
theorem stores_place (data : Bytes) :
    Stores (step (·.place data)) True data fun s n => s.length.toNat = data.length ∧ n.read s = .ok data where
  ok m _ hroom := by
    have hlt := m.limit.maxBytes.toNat_lt
    let s : Slice := ⟨UInt32.ofNat m.used, UInt32.ofNat data.length⟩
    have hplace : m.place data = .ok (s, m.extend data) := by
      refine GuestMemory.place_ok_iff.mpr ⟨hroom, ?_, ?_, rfl⟩ <;> simp only [s, UInt32.toNat_ofNat'] <;> omega
    obtain ⟨-, hstart, hlength, -⟩ := GuestMemory.place_ok_iff.mp hplace
    refine ⟨s, step_ok_iff.mpr hplace, fun tail => ⟨hlength, ?_⟩⟩
    have hstop : s.stop = m.used + data.length := by rw [Slice.stop, hstart, hlength]
    rw [GuestMemory.read_eq, if_pos, hstart, hlength, GuestMemory.bytes_extend, ← GuestMemory.length_bytes,
      List.drop_left, List.take_left]
    rw [hstop, GuestMemory.used_extend, List.length_append, UInt32.size]
    omega
  error m hn := by
    refine ⟨.outOfMemory data.length (m.limit.maxBytes.toNat - m.used), m, ?_⟩
    have hplace : m.place data = .error (.outOfMemory data.length (m.limit.maxBytes.toNat - m.used)) := by
      have hfull : m.limit.allows (m.used + data.length) = false := by simpa [MemoryLimit.allows] using hn
      simp [GuestMemory.place, GuestMemory.reserve, hfull]
    simp only [step, hplace]

end Marshalling

namespace GuestMemory

open Marshalling (Stores stores_place)

/-! ## Texts -/

theorem textAt_encode (start : UInt32) (text : String) : textAt start (Text.Utf8.encode text) = .ok text := by
  rw [textAt, Text.Utf8.decode_encode]
  rfl

/-- **A text is placed if it is short enough and there is room for it,** and is then read back by everyone for whom
it is short enough. -/
theorem stores_encodeText (limits : MarshalLimits) (text : String) :
    Stores (encodeText limits text) (limits.Allows text) (Text.Utf8.encode text) fun s n =>
      ∀ reader : MarshalLimits, Gives (n.readText reader s) (reader.Allows text) text := by
  refine ((stores_place _).guard (limits.gives_check _)).imp (and_iff_left trivial) rfl ?_
  rintro s n ⟨hlength, hread⟩ reader
  have hbytes : Gives (n.readBytes reader s) (reader.Allows text) (Text.Utf8.encode text) := by
    have hcheck := reader.gives_check s.length.toNat
    rw [hlength] at hcheck
    rw [readBytes, hlength]
    exact hcheck.andThen hread
  exact hbytes.andThen (textAt_encode s.start text)

/-! ## Lists of texts -/

theorem length_tableOf (offset : Nat) (pieces : List Bytes) :
    (tableOf offset pieces).length = pieces.length * entrySize := by
  induction pieces generalizing offset with
  | nil => rfl
  | cons piece pieces ih => simp [tableOf, ih, entrySize]; omega

/-- The first entry of a table and those behind it. -/
theorem readEntries_append {data : Buffer} {start : UInt32} {entry : Nat} {offset length rest : Bytes}
    (ho : offset.length = 4) (hl : length.length = 4) :
    readEntries data start entry (offset ++ (length ++ rest)) = (do
      let text ← readEntry data start entry (Bytes.toNatLE offset) (Bytes.toNatLE length)
      let texts ← readEntries data start (entry + 1) rest
      return text :: texts) :=
  match offset, length, ho, hl with
  | [_, _, _, _], [_, _, _, _], _, _ => rfl

/-- The text between others is found by its offset and its length. -/
theorem readEntry_encode {data : Buffer} {before behind : Bytes} {text : String} (start : UInt32) (entry : Nat)
    (hdata : data.toList = before ++ (Text.Utf8.encode text ++ behind)) :
    readEntry data start entry before.length (Text.Utf8.encode text).length = .ok text := by
  have hsize : before.length + (Text.Utf8.encode text).length ≤ data.size := by
    rw [← Buffer.length_toList, hdata]
    simp only [List.length_append]
    omega
  rw [readEntry, if_pos hsize, Buffer.toList_slice, hdata, List.drop_left, Nat.add_sub_cancel_left, List.take_left]
  exact textAt_encode _ text

theorem readEntries_tableOf {data : Buffer} (start : UInt32) (entry : Nat) (before : Bytes) {texts : List String}
    (hdata : data.toList = before ++ (texts.map Text.Utf8.encode).flatten) (hsize : data.size < UInt32.size) :
    readEntries data start entry (tableOf before.length (texts.map Text.Utf8.encode)) = .ok texts := by
  induction texts generalizing before entry with
  | nil => rfl
  | cons text texts ih =>
    simp only [List.map_cons, List.flatten_cons] at hdata
    have hrest := ih (entry + 1) (before ++ Text.Utf8.encode text) (by rw [hdata, List.append_assoc])
    rw [List.length_append] at hrest
    have hfits : before.length + (Text.Utf8.encode text).length < UInt32.size := by
      refine Nat.lt_of_le_of_lt ?_ hsize
      rw [← Buffer.length_toList, hdata]
      simp only [List.length_append]
      omega
    rw [List.map_cons, tableOf, List.append_assoc,
      readEntries_append (Bytes.length_ofNatLE 4 _) (Bytes.length_ofNatLE 4 _),
      Bytes.toNatLE_ofNatLE (Nat.lt_of_le_of_lt (Nat.le_add_right _ _) hfits),
      Bytes.toNatLE_ofNatLE (Nat.lt_of_le_of_lt (Nat.le_add_left _ _) hfits), readEntry_encode start entry hdata, hrest]
    rfl

/-- Where the octets of texts and their table lie in a memory. -/
structure Packed (n : GuestMemory) (p : PackedTexts) (texts : List String) : Prop where
  count : p.count = UInt32.ofNat texts.length
  length_data : p.data.length.toNat = (texts.map Text.Utf8.encode).flatten.length
  read_data : n.read p.data = .ok (texts.map Text.Utf8.encode).flatten
  length_table : p.table.length.toNat = (tableOf 0 (texts.map Text.Utf8.encode)).length
  read_table : n.read p.table = .ok (tableOf 0 (texts.map Text.Utf8.encode))

theorem piece_of_read {n : GuestMemory} {s : Slice} {bytes : Bytes} (h : n.read s = .ok bytes) :
    ∃ data, n.piece s = .ok data ∧ data.toList = bytes := by
  rw [read] at h
  cases hp : n.piece s with
  | error e => rw [hp] at h; cases h
  | ok data => rw [hp] at h; exact ⟨data, rfl, Except.ok.inj h⟩

/-- Packed texts are read back by everyone for whom they are few and short enough. -/
theorem Packed.gives {n : GuestMemory} {p : PackedTexts} {texts : List String} (h : n.Packed p texts)
    (reader : MarshalLimits) : Gives (n.readTexts reader p) (reader.AllowsAll texts) texts := by
  obtain ⟨data, hpiece, hdata⟩ := piece_of_read h.read_data
  have hentries : p.table.length.toNat = texts.length * entrySize := by
    rw [h.length_table, length_tableOf, List.length_map]
  have hcount : p.count.toNat = texts.length := by
    have hlt := p.table.length.toNat_lt
    rw [h.count, UInt32.toNat_ofNat', Nat.mod_eq_of_lt]
    simp only [entrySize] at hentries
    omega
  have hsize : data.size < UInt32.size := by
    have hlt := p.data.length.toNat_lt
    rw [← Buffer.length_toList, hdata, ← h.length_data]
    exact hlt
  have hread := readEntries_tableOf p.data.start 0 [] hdata hsize
  let behind : Except MarshalError (List String) := do
    let table ← n.read p.table
    let data ← n.piece p.data
    readEntries data p.data.start 0 table
  -- The two tests of the reader decide: what it looks at behind them is as it was placed.
  have hbehind : behind = .ok texts := by
    simp only [behind, h.read_table, hpiece]
    exact hread
  have htests : n.readTexts reader p = reader.checkCount texts.length >>= fun _ =>
      reader.check (texts.map Text.Utf8.encode).flatten.length >>= fun _ => behind := by
    rw [readTexts, hcount, h.length_data]
    simp only [hentries, ne_eq, not_true_eq_false, if_false]
    rfl
  rw [htests]
  exact (reader.gives_checkCount _).bind ((reader.gives_check _).andThen hbehind)

/-- **Texts are placed if they are few and short enough and there is room for them and their table,** and are then read
back by everyone for whom they are few and short enough. -/
theorem stores_encodeTexts (limits : MarshalLimits) (texts : List String) :
    Stores (encodeTexts limits texts) (limits.AllowsAll texts)
      ((texts.map Text.Utf8.encode).flatten ++ tableOf 0 (texts.map Text.Utf8.encode)) fun p n =>
      ∀ reader : MarshalLimits, Gives (n.readTexts reader p) (reader.AllowsAll texts) texts := by
  have hpacked : Gives (limits.checkPacked 0 (texts.map Text.Utf8.encode))
      ((texts.map Text.Utf8.encode).flatten.length ≤ limits.maxBuffer) () := by
    have hiff : limits.checkPacked 0 (texts.map Text.Utf8.encode) = .ok () ↔
        (texts.map Text.Utf8.encode).flatten.length ≤ limits.maxBuffer := by
      rw [MarshalLimits.checkPacked_ok_iff (Nat.zero_le _), Nat.zero_add]
    refine ⟨hiff.mpr, fun hn => ?_⟩
    cases hc : limits.checkPacked 0 (texts.map Text.Utf8.encode) with
    | ok _ => exact absurd (hiff.mp hc) hn
    | error e => exact ⟨e, rfl⟩
  have hplaced := (stores_place (texts.map Text.Utf8.encode).flatten).bind fun data =>
    (stores_place (tableOf 0 (texts.map Text.Utf8.encode))).map
      fun table => (⟨data, table, UInt32.ofNat texts.length⟩ : PackedTexts)
  refine (Stores.guard (limits.gives_checkCount _) (Stores.guard hpacked hplaced)).imp ?_ rfl ?_
  · simp only [MarshalLimits.AllowsAll, and_true]
  · rintro p n ⟨data, ⟨hlength, hread⟩, table, ⟨hlength', hread'⟩, rfl⟩
    exact Packed.gives ⟨rfl, hlength, hread, hlength', hread'⟩

end GuestMemory

end RunLedger
