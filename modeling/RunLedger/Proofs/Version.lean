import Mathlib.Data.List.Basic
import Mathlib.Data.Nat.Digits.Defs
import RunLedger.Version

/-!
# Spellings of versions

A 64-bit number has many spellings (`Numeral`): its digits count by their places, any zeros may stand in front of them,
and a plus sign in front of all. Three spellings with dots between them spell a version (`Version.Spelling`). A text is
read as a version exactly if it spells that version (`Version.ofText_eq_ok_iff`), and any other text is refused for the
first thing that is wrong with it (`Version.ofText_eq_error_iff`). What is shown of a version is one of its spellings
(`Version.Spelling.text_plain`).

* `Version.read_as_spelled`: the texts that are read are the spellings, what is shown is read back, and tells the version.
-/

namespace RunLedger

/-! ## Numerals -/

namespace Text.Decimal

/-- The number that digits stand for, each counted by its place. -/
def placeValue (ds : List Char) : Nat := Nat.ofDigits 10 (ds.map fun d => d.toNat - '0'.toNat).reverse

theorem value_eq_placeValue (ds : List Char) : value ds = placeValue ds := by
  rw [placeValue, Nat.ofDigits_eq_foldr, List.foldr_reverse, List.foldl_map, value]
  congr 1
  funext n d
  rw [Nat.cast_id, Nat.add_comm, Nat.mul_comm]
  rfl

/-- One of the spellings of a 64-bit number. -/
structure Numeral where
  /-- Whether a plus sign stands in front. -/
  plus : Bool
  /-- The digits, the zeros in front of them among them. -/
  digits : List Char
  allDigits : AllDigits digits
  fits : placeValue digits < 2 ^ 64

namespace Numeral

/-- What is written. -/
def chars (n : Numeral) : List Char := if n.plus then '+' :: n.digits else n.digits

/-- The number that is spelled. -/
def word (n : Numeral) : UInt64 := .ofNatLT (placeValue n.digits) n.fits

/-- The spelling that a number is shown in. -/
def plain (u : UInt64) : Numeral where
  plus := false
  digits := Decimal.digits u.toNat
  allDigits := allDigits_digits u.toNat
  fits := by
    rw [← value_eq_placeValue, value_digits]
    exact u.toNat_lt

theorem toNat_word (n : Numeral) : n.word.toNat = value n.digits := by
  rw [value_eq_placeValue]
  exact UInt64.toNat_ofNatLT

@[simp] theorem word_plain (u : UInt64) : (plain u).word = u := by
  rw [← UInt64.toNat_inj, toNat_word]
  exact value_digits u.toNat

theorem unsigned_chars (n : Numeral) : unsigned n.chars = n.digits := by
  unfold chars
  split
  · rfl
  · exact n.allDigits.unsigned_eq

/-- A dot is neither a sign nor a digit. -/
theorem dot_notMem_chars (n : Numeral) : '.' ∉ n.chars := by
  have hdigits : '.' ∉ n.digits := fun h => absurd (n.allDigits.2 _ h) (by decide)
  unfold chars
  split
  · exact List.not_mem_cons_of_ne_of_not_mem (by decide) hdigits
  · exact hdigits

end Numeral

/-- **The texts that are read as a number are its spellings.** -/
theorem readU64?_eq_some_iff_spelled {cs : List Char} {u : UInt64} :
    readU64? cs = some u ↔ ∃ n : Numeral, n.chars = cs ∧ n.word = u := by
  rw [readU64?_eq_some_iff]
  constructor
  · rintro ⟨hdigits, hvalue⟩
    have hfits : placeValue (unsigned cs) < 2 ^ 64 := by
      rw [← value_eq_placeValue, hvalue]
      exact u.toNat_lt
    obtain ⟨plus, hchars⟩ := exists_sign cs
    refine ⟨⟨plus, unsigned cs, hdigits, hfits⟩, hchars.symm, ?_⟩
    rw [← UInt64.toNat_inj, Numeral.toNat_word, hvalue]
  · rintro ⟨n, rfl, rfl⟩
    rw [n.unsigned_chars]
    exact ⟨n.allDigits, n.toNat_word.symm⟩

end Text.Decimal

/-! ## Versions -/

namespace Version

open Text.Decimal (Numeral)

/-- One of the spellings of a version. -/
structure Spelling where
  major : Numeral
  minor : Numeral
  patch : Numeral

namespace Spelling

/-- What is written. -/
def text (p : Spelling) : String := String.ofList (p.major.chars ++ '.' :: p.minor.chars ++ '.' :: p.patch.chars)

/-- The version that is spelled. -/
def version (p : Spelling) : Version := ⟨p.major.word, p.minor.word, p.patch.word⟩

/-- The spelling that a version is shown in. -/
def plain (v : Version) : Spelling := ⟨.plain v.major, .plain v.minor, .plain v.patch⟩

theorem text_plain (v : Version) : (plain v).text = v.text := rfl

@[simp] theorem version_plain (v : Version) : (plain v).version = v := by simp [version, plain]

end Spelling

/-! ### Parts -/

theorem parts_eq_splitOn (cs : List Char) : parts cs = cs.splitOn '.' := by
  fun_induction parts cs with
  | case1 => rfl
  | case2 cs ih =>
    rw [ih]
    exact (List.splitOn_append_cons_self_of_not_mem List.not_mem_nil cs).symm
  | case3 c cs hc p ps hparts ih =>
    have hc : (c == '.') = false := beq_false_of_ne hc
    rw [List.splitOn, List.splitOnP_cons_eq_if_modifyHead, hc, ← List.splitOn, ← ih, hparts]
    rfl
  | case4 c cs hc hparts ih => exact absurd (ih.symm.trans hparts) (List.splitOn_ne_nil '.' cs)

/-- Three parts are written with dots between them. -/
theorem eq_of_splitOn_eq {cs a b c : List Char} (h : cs.splitOn '.' = [a, b, c]) : cs = a ++ '.' :: b ++ '.' :: c := by
  have hjoined : ['.'].intercalate (cs.splitOn '.') = cs := List.intercalate_splitOn '.'
  rw [← hjoined, h]
  simp

/-- Where no part has a dot in it the dots between them tell the parts. -/
theorem Spelling.splitOn_text (p : Spelling) :
    p.text.toList.splitOn '.' = [p.major.chars, p.minor.chars, p.patch.chars] := by
  rw [text, String.toList_ofList, List.append_assoc, List.cons_append,
    List.splitOn_append_cons_self_of_not_mem p.major.dot_notMem_chars,
    List.splitOn_append_cons_self_of_not_mem p.minor.dot_notMem_chars,
    List.splitOn_eq_singleton p.patch.dot_notMem_chars]

theorem component_chars (n : Numeral) : component n.chars = .ok n.word := by
  rw [component, Text.Decimal.readU64?_eq_some_iff_spelled.mpr ⟨n, rfl, rfl⟩]

/-- A part that spells no number is named. -/
theorem component_of_not_spelled {part : List Char} (h : ∀ n : Numeral, n.chars ≠ part) :
    component part = .error (.component (String.ofList part)) := by
  unfold component
  split
  · rename_i u hu
    obtain ⟨n, hn, -⟩ := Text.Decimal.readU64?_eq_some_iff_spelled.mp hu
    exact absurd hn (h n)
  · rfl

/-! ### Texts -/

/-- The first thing that is wrong with a text that spells no version. -/
inductive Refused (s : String) : Error → Prop
  | format : (s.toList.splitOn '.').length ≠ 3 → Refused s (.format s)
  | major {a b c : List Char} : s.toList.splitOn '.' = [a, b, c] → (∀ n : Numeral, n.chars ≠ a) →
      Refused s (.component (String.ofList a))
  | minor {b c : List Char} (major : Numeral) : s.toList.splitOn '.' = [major.chars, b, c] →
      (∀ n : Numeral, n.chars ≠ b) → Refused s (.component (String.ofList b))
  | patch {c : List Char} (major minor : Numeral) : s.toList.splitOn '.' = [major.chars, minor.chars, c] →
      (∀ n : Numeral, n.chars ≠ c) → Refused s (.component (String.ofList c))

section

variable {s : String} {v : Version} {e : Error} {a b c : List Char}

theorem ofText_of_splitOn_eq (h : s.toList.splitOn '.' = [a, b, c]) :
    ofText s = component a >>= fun major => component b >>= fun minor => component c >>= fun patch =>
      .ok ⟨major, minor, patch⟩ := by
  rw [ofText, parts_eq_splitOn, h]

theorem ofText_spelling (p : Spelling) : ofText p.text = .ok p.version := by
  rw [ofText_of_splitOn_eq p.splitOn_text, component_chars, component_chars, component_chars]
  rfl

theorem ofText_of_refused (h : Refused s e) : ofText s = .error e := by
  cases h with
  | format h =>
    rw [ofText, parts_eq_splitOn]
    split
    · rename_i hparts
      exact absurd (congrArg List.length hparts) h
    · rfl
  | major h ha =>
    rw [ofText_of_splitOn_eq h, component_of_not_spelled ha]
    rfl
  | minor major h hb =>
    rw [ofText_of_splitOn_eq h, component_chars, component_of_not_spelled hb]
    rfl
  | patch major minor h hc =>
    rw [ofText_of_splitOn_eq h, component_chars, component_chars, component_of_not_spelled hc]
    rfl

/-- **A text spells a version or something is wrong with it.** -/
theorem spelled_or_refused (s : String) : (∃ p : Spelling, p.text = s) ∨ ∃ e, Refused s e := by
  have spelled_or (part : List Char) : (∃ n : Numeral, n.chars = part) ∨ ∀ n : Numeral, n.chars ≠ part := by
    rw [← not_exists]
    exact Classical.em _
  by_cases hlength : (s.toList.splitOn '.').length = 3
  · obtain ⟨a, b, c, h⟩ := List.length_eq_three.mp hlength
    -- the parts are looked at in their order, up to the first that is no numeral
    obtain ⟨major, rfl⟩ | ha := spelled_or a
    · obtain ⟨minor, rfl⟩ | hb := spelled_or b
      · obtain ⟨patch, rfl⟩ | hc := spelled_or c
        · refine .inl ⟨⟨major, minor, patch⟩, ?_⟩
          rw [← String.toList_inj, Spelling.text, String.toList_ofList, eq_of_splitOn_eq h]
        · exact .inr ⟨_, .patch major minor h hc⟩
      · exact .inr ⟨_, .minor major h hb⟩
    · exact .inr ⟨_, .major h ha⟩
  · exact .inr ⟨_, .format hlength⟩

/-- **The texts that are read as a version are its spellings.** -/
theorem ofText_eq_ok_iff : ofText s = .ok v ↔ ∃ p : Spelling, p.text = s ∧ p.version = v := by
  constructor
  · intro h
    obtain ⟨p, rfl⟩ | ⟨e, he⟩ := spelled_or_refused s
    · exact ⟨p, rfl, Except.ok.inj ((ofText_spelling p).symm.trans h)⟩
    · rw [ofText_of_refused he] at h
      cases h
  · rintro ⟨p, rfl, rfl⟩
    exact ofText_spelling p

/-- **A text is refused for the first thing that is wrong with it.** -/
theorem ofText_eq_error_iff : ofText s = .error e ↔ Refused s e := by
  constructor
  · intro h
    obtain ⟨p, rfl⟩ | ⟨e', he⟩ := spelled_or_refused s
    · rw [ofText_spelling] at h
      cases h
    · rw [ofText_of_refused he] at h
      cases h
      exact he
  · exact ofText_of_refused

end

/-- A version is read back from its text. -/
theorem ofText_text (v : Version) : ofText v.text = .ok v :=
  ofText_eq_ok_iff.mpr ⟨.plain v, Spelling.text_plain v, Spelling.version_plain v⟩

theorem text_injective : Function.Injective text := by
  intro v w h
  have hv := ofText_text v
  rw [h, ofText_text w] at hv
  exact (Except.ok.inj hv).symm

/-- **Reading and showing versions.**

* A text is read exactly if it is three numerals with dots between them, each of them at least one ASCII digit, perhaps
  behind a plus sign, for a number below `2^64`.
* What is read are the numbers that the numerals spell.
* What is shown of a version is read as that version, so it tells the version.
* What was read of a text is read once more from what is shown of it. -/
theorem read_as_spelled :
    (∀ s, (∃ v, ofText s = .ok v) ↔ ∃ p : Spelling, p.text = s) ∧
    (∀ p : Spelling, ofText p.text = .ok p.version) ∧
    (∀ v : Version, ofText v.text = .ok v) ∧
    Function.Injective text ∧
    ∀ s, (ofText s >>= fun v => ofText v.text) = ofText s := by
  refine ⟨fun s => ⟨?_, ?_⟩, ofText_spelling, ofText_text, text_injective, fun s => ?_⟩
  · rintro ⟨v, h⟩
    obtain ⟨p, hp, -⟩ := ofText_eq_ok_iff.mp h
    exact ⟨p, hp⟩
  · rintro ⟨p, rfl⟩
    exact ⟨p.version, ofText_spelling p⟩
  · cases h : ofText s with
    | error e => rfl
    | ok v => exact ofText_text v

end Version

end RunLedger
