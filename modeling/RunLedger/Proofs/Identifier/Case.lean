import RunLedger.Proofs.Text.Hex

/-!
# Identifiers in letters of either case

To put a text in lower case is to put its octets in lower case (`Text.Utf8.encode_toLower`), and in none of the forms of
an identifier is a letter told from its lower case: not as a digit (`Text.Hex.decodeBytes_map_lowerOctet`), and not in
the label of a name. So all texts that differ in nothing but the case name the same run, with the tag or without it.

* `Uuid.ofText_toLower`: the case does not matter.
* `RunId.ofText_of_toLower`: a run is read from its text in letters of any case.
-/

namespace RunLedger

namespace Text

/-- An octet, with the letters in lower case. -/
def lowerOctet (octet : UInt8) : UInt8 := if 65 ≤ octet ∧ octet ≤ 90 then octet + 32 else octet

/-! ## Octets and characters in lower case -/

/-- What holds of the octets with each number holds of all octets. -/
theorem forall_octet {P : UInt8 → Prop} (h : ∀ n : Fin 256, P (UInt8.ofNat n)) (octet : UInt8) : P octet := by
  have hoctet := h ⟨octet.toNat, octet.toNat_lt_size⟩
  rwa [UInt8.ofNat_toNat] at hoctet

/-- What holds of all ASCII characters, and of those that are none, holds of all characters. -/
theorem forall_char {P : Char → Prop} (hascii : ∀ n : Fin 128, P (Char.ofNat n))
    (hother : ∀ c : Char, 128 ≤ c.toNat → P c) (c : Char) : P c := by
  by_cases h : c.toNat < 128
  · have hc := hascii ⟨c.toNat, h⟩
    rwa [Char.ofNat_toNat] at hc
  · exact hother c (Nat.le_of_not_lt h)

theorem lowerOctet_of_not_ascii {octet : UInt8} (h : 128 ≤ octet.toNat) : lowerOctet octet = octet := by
  have hlt : ¬octet ≤ 90 := by
    rw [UInt8.le_iff_toNat_le]
    exact Nat.not_le.mpr (Nat.lt_of_lt_of_le (by decide) h)
  rw [lowerOctet, if_neg fun hletter => hlt hletter.2]

/-- The only octet that becomes a hyphen is the hyphen. -/
theorem lowerOctet_eq_hyphen_iff (octet : UInt8) : lowerOctet octet = 45 ↔ octet = 45 :=
  forall_octet (P := fun octet => lowerOctet octet = 45 ↔ octet = 45) (by decide +kernel) octet

/-- A character that is no ASCII character is not above a letter. -/
theorem not_le_of_not_ascii {c : Char} (h : 128 ≤ c.toNat) {letter : Char} (hletter : letter.toNat < 128) :
    ¬c.val ≤ letter.val := by
  rw [UInt32.le_iff_toNat_le]
  exact Nat.not_le.mpr (Nat.lt_of_lt_of_le hletter h)

theorem toLower_of_not_ascii {c : Char} (h : 128 ≤ c.toNat) : c.toLower = c :=
  dif_neg fun hletter => not_le_of_not_ascii h (by decide) hletter.2

theorem toUpper_of_not_ascii {c : Char} (h : 128 ≤ c.toNat) : c.toUpper = c :=
  dif_neg fun hletter => not_le_of_not_ascii h (by decide) hletter.2

theorem toLower_toLower : ∀ c : Char, c.toLower.toLower = c.toLower :=
  forall_char (by decide) fun c h => by rw [toLower_of_not_ascii h, toLower_of_not_ascii h]

theorem toLower_toUpper : ∀ c : Char, c.toUpper.toLower = c.toLower :=
  forall_char (by decide) fun c h => by rw [toUpper_of_not_ascii h]

/-- The braces have no other case. -/
theorem toLower_eq_brace_iff : ∀ c : Char, (c.toLower = '\x7b' ↔ c = '\x7b') ∧ (c.toLower = '\x7d' ↔ c = '\x7d') :=
  forall_char (by decide) fun c h => by rw [toLower_of_not_ascii h]; exact ⟨Iff.rfl, Iff.rfl⟩

/-- A character that is no ASCII character has no ASCII octet. -/
theorem le_of_mem_utf8EncodeChar {c : Char} (h : 128 ≤ c.toNat) :
    ∀ octet ∈ String.utf8EncodeChar c, 128 ≤ octet.toNat := by
  have h : ¬c.val.toNat ≤ 0x7f := Nat.not_le.mpr h
  have hoctet {n : Nat} (hn : 128 ≤ n) (hn' : n < 256) : 128 ≤ (UInt8.ofNat n).toNat := by
    rwa [UInt8.toNat_ofNat', Nat.mod_eq_of_lt hn']
  rw [String.utf8EncodeChar, if_neg h]
  split
  · simp only [List.forall_mem_cons]
    exact ⟨hoctet (by omega) (by omega), hoctet (by omega) (by omega), nofun⟩
  · split
    · simp only [List.forall_mem_cons]
      exact ⟨hoctet (by omega) (by omega), hoctet (by omega) (by omega), hoctet (by omega) (by omega), nofun⟩
    · simp only [List.forall_mem_cons]
      exact ⟨hoctet (by omega) (by omega), hoctet (by omega) (by omega), hoctet (by omega) (by omega),
        hoctet (by omega) (by omega), nofun⟩

theorem utf8EncodeChar_toLower :
    ∀ c : Char, String.utf8EncodeChar c.toLower = (String.utf8EncodeChar c).map lowerOctet :=
  forall_char (by decide +kernel) fun c h => by
    have hsame : ∀ octet ∈ String.utf8EncodeChar c, lowerOctet octet = octet := fun octet ho =>
      lowerOctet_of_not_ascii (le_of_mem_utf8EncodeChar h octet ho)
    rw [toLower_of_not_ascii h, List.map_congr_left hsame, List.map_id']

/-- **The octets of a text in lower case are its octets in lower case.** -/
theorem Utf8.encode_toLower (s : String) : Utf8.encode s.toLower = (Utf8.encode s).map lowerOctet := by
  simp only [Utf8.encode_eq, Hex.toList_toLower, List.flatMap_map, List.map_flatMap, utf8EncodeChar_toLower]

namespace Hex

theorem value?_lowerOctet (octet : UInt8) : value? (lowerOctet octet).toNat = value? octet.toNat :=
  forall_octet (P := fun octet => value? (lowerOctet octet).toNat = value? octet.toNat) (by decide +kernel) octet

theorem decodeBytes_eq_ok_iff {octets bytes : Bytes} :
    decodeBytes octets = .ok bytes ↔
      (∀ octet ∈ octets, (value? octet.toNat).isSome) ∧ octets.map lower = encodeList bytes := by
  constructor
  · intro h
    rw [decodeBytes] at h
    split at h
    · cases h
    · obtain ⟨hdigits, heven⟩ := digits_of_decodeOnto h
      obtain ⟨new, hread, hnew⟩ := decodeOnto_of_digits [] 0 hdigits heven
      rw [h] at hread
      exact ⟨hdigits, by rw [Except.ok.inj hread, List.reverse_nil, List.nil_append, hnew]⟩
  · rintro ⟨hdigits, hlower⟩
    have heven : octets.length % 2 = 0 := by
      have hlength := congrArg List.length hlower
      rw [List.length_map, length_encodeList] at hlength
      omega
    obtain ⟨new, hread, hnew⟩ := decodeOnto_of_digits [] 0 hdigits heven
    rw [decodeBytes, if_neg (by omega), hread, encodeList_inj (hlower.symm.trans hnew.symm)]
    rfl

/-- **Digits are read in either case.** -/
theorem decodeBytes_map_lowerOctet {octets bytes : Bytes} :
    decodeBytes (octets.map lowerOctet) = .ok bytes ↔ decodeBytes octets = .ok bytes := by
  have hlower : lower ∘ lowerOctet = lower := by
    funext octet
    rw [Function.comp_apply, lower, value?_lowerOctet, lower]
  simp only [decodeBytes_eq_ok_iff, List.forall_mem_map, value?_lowerOctet, List.map_map, hlower]

end Hex

end Text

open Text (lowerOctet lowerOctet_eq_hyphen_iff)

namespace Uuid

/-! ## The forms of an identifier -/

theorem bare?_eq_some_iff {octets : Bytes} {u : Uuid} :
    bare? octets = some u ↔ Text.Hex.decodeBytes octets = .ok u.bytes := by
  unfold bare?
  constructor
  · intro h
    split at h
    · rename_i bytes hread
      obtain ⟨block, hblock, rfl⟩ := Option.map_eq_some_iff.mp h
      exact hread.trans (congrArg Except.ok (Block.ofBytes?_eq_some_iff.mp hblock).symm)
    · cases h
  · intro h
    rw [h]
    exact congrArg (Option.map Uuid.mk) (Block.ofBytes?_bytes u.block)

theorem bare?_map_lowerOctet (octets : Bytes) : bare? (octets.map lowerOctet) = bare? octets := by
  ext u
  rw [bare?_eq_some_iff, bare?_eq_some_iff, Text.Hex.decodeBytes_map_lowerOctet]

theorem hyphenated?_map_lowerOctet (octets : Bytes) : hyphenated? (octets.map lowerOctet) = hyphenated? octets := by
  have hhyphen (i : Nat) : (octets.map lowerOctet)[i]? = some 45 ↔ octets[i]? = some 45 := by
    rw [List.getElem?_map]
    cases octets[i]? with
    | none => simp
    | some octet => simp [lowerOctet_eq_hyphen_iff]
  simp only [hyphenated?, List.length_map, hhyphen, ← List.map_take, ← List.map_drop, ← List.map_append,
    bare?_map_lowerOctet]

theorem isSome_insideBraces?_iff {cs : List Char} :
    (insideBraces? cs).isSome ↔ cs.head? = some '\x7b' ∧ cs.tail.getLast? = some '\x7d' := by
  unfold insideBraces?
  split
  · rename_i rest
    split <;> simp_all
  · rename_i hne
    cases cs with
    | nil => simp
    | cons c rest =>
      have hc : c ≠ '\x7b' := fun h => hne rest (h ▸ rfl)
      simp [hc]

theorem isSome_insideBraces?_map_toLower (cs : List Char) :
    (insideBraces? (cs.map Char.toLower)).isSome = (insideBraces? cs).isSome := by
  have hmap {found : Option Char} {brace : Char} (h : ∀ c : Char, c.toLower = brace ↔ c = brace) :
      found.map Char.toLower = some brace ↔ found = some brace := by
    cases found with
    | none => simp
    | some c => simp [h]
  rw [Bool.eq_iff_iff, isSome_insideBraces?_iff, isSome_insideBraces?_iff, List.head?_map, ← List.map_tail,
    List.getLast?_map, hmap fun c => (Text.toLower_eq_brace_iff c).1, hmap fun c => (Text.toLower_eq_brace_iff c).2]

theorem isSome_afterLabel?_map_toLower (cs : List Char) :
    (afterLabel? (cs.map Char.toLower)).isSome = (afterLabel? cs).isSome := by
  have htwice : Char.toLower ∘ Char.toLower = Char.toLower := funext Text.toLower_toLower
  rw [afterLabel?, afterLabel?, ← List.map_take, List.map_map, htwice]
  split <;> rfl

/-- What a text is read as, by the number of its octets. -/
theorem toOption_ofText (s : String) : (ofText s).toOption =
    let octets := Text.Utf8.encode s
    if octets.length = 32 then bare? octets
    else if octets.length = 36 then hyphenated? octets
    else if octets.length = 38 then
      if (insideBraces? s.toList).isSome then hyphenated? (octets.drop 1).dropLast else none
    else if octets.length = 45 then
      if (afterLabel? s.toList).isSome then hyphenated? (octets.drop 9) else none
    else none := by
  rw [ofText]
  dsimp only
  generalize (Text.Utf8.encode s).length = count
  split
  all_goals
    rename_i hfound
    refine hfound.symm.trans ?_
    split
    · rfl
    · rfl
    · cases insideBraces? s.toList <;> rfl
    · cases afterLabel? s.toList <;> rfl
    · rename_i h32 h36 h38 h45
      rw [if_neg h32, if_neg h36, if_neg h38, if_neg h45]

/-- **The case of the letters does not matter.** -/
theorem ofText_toLower (s : String) : (ofText s.toLower).toOption = (ofText s).toOption := by
  simp only [toOption_ofText, Text.Utf8.encode_toLower, List.length_map, Text.Hex.toList_toLower, ← List.map_drop,
    ← List.map_dropLast, bare?_map_lowerOctet, hyphenated?_map_lowerOctet, isSome_insideBraces?_map_toLower,
    isSome_afterLabel?_map_toLower]

/-- **An identifier is read from its text in letters of any case.** -/
theorem ofText_of_toLower {s : String} {u : Uuid} (h : s.toLower = u.text) : ofText s = .ok u := by
  have hread := ofText_toLower s
  rw [h, ofText_text] at hread
  cases hs : ofText s with
  | error e =>
    rw [hs] at hread
    cases hread
  | ok v =>
    rw [hs] at hread
    cases hread
    rfl

/-- The text of an identifier has no other characters than hyphens and digits in lower case. -/
theorem of_mem_text {P : Char → Prop} (hhyphen : P '-') (hdigit : ∀ n : Fin 16, P (Text.Hex.digit n)) {u : Uuid} :
    ∀ c ∈ u.text.toList, P c := by
  have hgroup (bytes : Bytes) : ∀ c ∈ Text.Hex.encodeList bytes, P c := by
    intro c hc
    obtain ⟨b, -, hb⟩ := List.mem_flatMap.mp hc
    have hlt := b.toNat_lt
    simp only [Text.Hex.pair, List.mem_cons, List.not_mem_nil, or_false] at hb
    rcases hb with rfl | rfl
    · exact hdigit ⟨b.toNat / 16, by omega⟩
    · exact hdigit ⟨b.toNat % 16, by omega⟩
  intro c hc
  simp only [text, hyphenate, String.toList_ofList, List.mem_append, List.mem_cons, or_assoc] at hc
  rcases hc with hc | rfl | hc | rfl | hc | rfl | hc | rfl | hc
  all_goals first | exact hhyphen | exact hgroup _ c hc

theorem toLower_text (u : Uuid) : u.text.toLower = u.text := by
  have hsame : ∀ c ∈ u.text.toList, c.toLower = c := of_mem_text (P := fun c => c.toLower = c) (by decide) (by decide)
  refine String.toList_injective ?_
  rw [Text.Hex.toList_toLower, List.map_congr_left hsame, List.map_id']

theorem toLower_toUpper_text (u : Uuid) : u.text.toUpper.toLower = u.text := by
  have hupper : u.text.toUpper.toList = u.text.toList.map Char.toUpper := String.toList_map
  have hlower : Char.toLower ∘ Char.toUpper = Char.toLower := funext Text.toLower_toUpper
  refine String.toList_injective ?_
  rw [Text.Hex.toList_toLower, hupper, List.map_map, hlower, ← Text.Hex.toList_toLower, toLower_text]

end Uuid

namespace RunId

theorem untagged_of_tagged (s : String) : untagged (String.ofList (tag ++ s.toList)) = s := by
  have htag : tag.isPrefixOf (tag ++ s.toList) := List.isPrefixOf_iff_prefix.mpr (List.prefix_append _ _)
  rw [untagged, String.toList_ofList, if_pos htag, List.drop_left, String.ofList_toList]

/-- The text of an identifier does not begin with the tag, in no case. -/
theorem untagged_of_toLower {s : String} {u : Uuid} (h : s.toLower = u.text) : untagged s = s := by
  have hletter : ∀ c ∈ u.text.toList, c ≠ 'r' := Uuid.of_mem_text (P := fun c => c ≠ 'r') (by decide) (by decide)
  refine if_neg fun htag => ?_
  obtain ⟨rest, hrest⟩ := List.isPrefixOf_iff_prefix.mp htag
  refine hletter 'r' ?_ rfl
  rw [← h, Text.Hex.toList_toLower, ← hrest]
  exact List.mem_cons_self

/-- **A run is read from its text in letters of any case,** with the tag in front or without it. -/
theorem ofText_of_toLower {s : String} {r : RunId} (h : s.toLower = r.uuid.text) :
    ofText s = .ok r ∧ ofText (String.ofList (tag ++ s.toList)) = .ok r := by
  rw [ofText, ofText, untagged_of_tagged, untagged_of_toLower h, Uuid.ofText_of_toLower h]
  exact ⟨rfl, rfl⟩

theorem ofText_text (r : RunId) : ofText r.text = .ok r := (ofText_of_toLower r.uuid.toLower_text).2

end RunId

end RunLedger
