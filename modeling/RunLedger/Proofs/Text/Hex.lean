import RunLedger.Proofs.Identifier.Text
import RunLedger.Text.Blank

/-!
# What is hexadecimal text

A text writes a byte string if its characters are digits, of either case, and in lower case are those that the byte string
is written with (`decode_eq_ok_iff`). So the texts that write something are those with an even number of characters, all of
them digits (`exists_decode_iff`), and two of them write the same if they differ in nothing but the case.
-/

namespace RunLedger.Text.Hex

/-- The digits of either case. -/
def IsDigit (c : Char) : Prop := '0' ≤ c ∧ c ≤ '9' ∨ 'a' ≤ c ∧ c ≤ 'f' ∨ 'A' ≤ c ∧ c ≤ 'F'

instance : DecidablePred IsDigit := fun c =>
  inferInstanceAs (Decidable ('0' ≤ c ∧ c ≤ '9' ∨ 'a' ≤ c ∧ c ≤ 'f' ∨ 'A' ≤ c ∧ c ≤ 'F'))

/-- The digit that an octet is, in lower case. -/
def lower (octet : UInt8) : Char := digit ((value? octet.toNat).getD 0)

/-! ## Digits as octets -/

theorem value?_lt {code n : Nat} (h : value? code = some n) : n < 16 := by
  unfold value? at h
  split at h
  · cases h
    omega
  · split at h
    · cases h
      omega
    · split at h
      · cases h
        omega
      · cases h

theorem value?_of_not_ascii {code : Nat} (h : 128 ≤ code) : value? code = none := by
  unfold value?
  rw [if_neg (by omega), if_neg (by omega), if_neg (by omega)]

/-- The ASCII characters that are digits are those with a value. -/
theorem ascii_table : ∀ n : Fin 128, (IsDigit (Char.ofNat n) ↔ (value? n).isSome) ∧
    (IsDigit (Char.ofNat n) → digit ((value? n).getD 0) = (Char.ofNat n).toLower) := by
  decide

theorem utf8EncodeChar_of_ascii {c : Char} (h : c.toNat < 128) :
    String.utf8EncodeChar c = [UInt8.ofNat c.toNat] := by
  have h : c.val.toNat ≤ 0x7f := Nat.le_of_lt_succ h
  rw [String.utf8EncodeChar, if_pos h]
  rfl

/-- A character that is no ASCII character is written with an octet in front that is no digit. -/
theorem exists_octet_of_not_ascii {c : Char} (h : 128 ≤ c.toNat) :
    ∃ octet ∈ String.utf8EncodeChar c, value? octet.toNat = none := by
  have h : ¬c.val.toNat ≤ 0x7f := Nat.not_le.mpr h
  have hlead {n : Nat} (hn : 128 ≤ n) (hn' : n < 256) : value? (UInt8.ofNat n).toNat = none := by
    rw [UInt8.toNat_ofNat', Nat.mod_eq_of_lt hn']
    exact value?_of_not_ascii hn
  rw [String.utf8EncodeChar, if_neg h]
  split
  · exact ⟨_, List.mem_cons_self, hlead (by omega) (by omega)⟩
  · split <;> exact ⟨_, List.mem_cons_self, hlead (by omega) (by omega)⟩

theorem toNat_lt_of_isDigit {c : Char} (h : IsDigit c) : c.toNat < 128 := by
  rcases h with ⟨-, h⟩ | ⟨-, h⟩ | ⟨-, h⟩ <;> exact Nat.lt_of_le_of_lt (UInt32.le_iff_toNat_le.mp h) (by decide)

/-- **A character is a digit if its octets are.** -/
theorem isDigit_iff {c : Char} : IsDigit c ↔ ∀ octet ∈ String.utf8EncodeChar c, (value? octet.toNat).isSome := by
  by_cases h : c.toNat < 128
  · have htable := (ascii_table ⟨c.toNat, h⟩).1
    have hoctet : (UInt8.ofNat c.toNat).toNat = c.toNat := by
      rw [UInt8.toNat_ofNat', Nat.mod_eq_of_lt (by omega)]
    rw [Char.ofNat_toNat] at htable
    rw [utf8EncodeChar_of_ascii h, htable, List.forall_mem_singleton, hoctet]
  · obtain ⟨octet, hmem, hnone⟩ := exists_octet_of_not_ascii (Nat.le_of_not_lt h)
    refine ⟨fun hdigit => absurd (toNat_lt_of_isDigit hdigit) h, fun hall => ?_⟩
    have hsome := hall octet hmem
    rw [hnone] at hsome
    cases hsome

/-- A digit is one octet. -/
theorem map_lower_of_isDigit {c : Char} (h : IsDigit c) : (String.utf8EncodeChar c).map lower = [c.toLower] := by
  have hascii := toNat_lt_of_isDigit h
  have htable := (ascii_table ⟨c.toNat, hascii⟩).2
  rw [Char.ofNat_toNat] at htable
  rw [utf8EncodeChar_of_ascii hascii, List.map_singleton, lower, UInt8.toNat_ofNat', Nat.mod_eq_of_lt (by omega),
    htable h]

theorem toList_toLower (s : String) : s.toLower.toList = s.toList.map Char.toLower := String.toList_map

theorem map_lower_encode {s : String} (h : ∀ c ∈ s.toList, IsDigit c) :
    (Utf8.encode s).map lower = s.toLower.toList := by
  rw [Utf8.encode_eq, toList_toLower]
  generalize s.toList = cs at h
  induction cs with
  | nil => rfl
  | cons c cs ih =>
    rw [List.flatMap_cons, List.map_append, map_lower_of_isDigit (h c List.mem_cons_self),
      ih fun c hc => h c (List.mem_cons_of_mem _ hc)]
    rfl

/-- **The octets of a text are digits if its characters are.** -/
theorem isSome_value?_encode_iff {s : String} :
    (∀ octet ∈ Utf8.encode s, (value? octet.toNat).isSome) ↔ ∀ c ∈ s.toList, IsDigit c := by
  simp only [Utf8.encode_eq, List.mem_flatMap, isDigit_iff]
  constructor
  · intro h c hc octet ho
    exact h octet ⟨c, hc, ho⟩
  · rintro h octet ⟨c, hc, ho⟩
    exact h c hc octet ho

/-! ## Texts of digits -/

theorem readDigit_eq_ok_iff {position n : Nat} {octet : UInt8} :
    readDigit position octet = .ok n ↔ value? octet.toNat = some n := by
  unfold readDigit
  cases value? octet.toNat with
  | none => simp
  | some m => simp

/-- An octet that is refused has no value. -/
theorem value?_of_readDigit_error {position : Nat} {octet : UInt8} {e : Error}
    (h : readDigit position octet = .error e) : ¬(value? octet.toNat).isSome := by
  intro hsome
  obtain ⟨n, hn⟩ := Option.isSome_iff_exists.mp hsome
  rw [readDigit_eq_ok_iff.mpr hn] at h
  cases h

/-- Two digits write the octet of which they are the halves. -/
theorem pair_of_values {hi lo : UInt8} {h l : Nat} (hh : value? hi.toNat = some h) (hl : value? lo.toNat = some l) :
    pair (UInt8.ofNat (h * 16 + l)) = [lower hi, lower lo] := by
  have hlt := value?_lt hh
  have hlt' := value?_lt hl
  have hoctet : (UInt8.ofNat (h * 16 + l)).toNat = h * 16 + l := by
    rw [UInt8.toNat_ofNat', Nat.mod_eq_of_lt (by omega)]
  have hhigh : (h * 16 + l) / 16 = h := by omega
  have hlow : (h * 16 + l) % 16 = l := by omega
  rw [pair, hoctet, hhigh, hlow, lower, lower, hh, hl]
  rfl

/-- Digits of an even number are read, as the octets that are written with them in lower case. -/
theorem decodeOnto_of_digits (read : Bytes) (position : Nat) {octets : Bytes}
    (h : ∀ octet ∈ octets, (value? octet.toNat).isSome) (heven : octets.length % 2 = 0) :
    ∃ new, decodeOnto read position octets = .ok (read.reverse ++ new) ∧ encodeList new = octets.map lower := by
  fun_induction decodeOnto read position octets with
  | case1 read position => exact ⟨[], by rw [List.append_nil], rfl⟩
  | case2 => cases heven
  | case3 read position hi lo rest high low hlow hhigh ih =>
    have hrest : rest.length % 2 = 0 := by
      simp only [List.length_cons] at heven
      omega
    obtain ⟨new, hread, hnew⟩ := ih (fun o ho => h o (List.mem_cons_of_mem _ (List.mem_cons_of_mem _ ho))) hrest
    refine ⟨UInt8.ofNat (high * 16 + low) :: new, ?_, ?_⟩
    · rw [hread, List.reverse_cons, List.append_assoc]
      rfl
    · have hpair := pair_of_values (readDigit_eq_ok_iff.mp hhigh) (readDigit_eq_ok_iff.mp hlow)
      rw [encodeList, List.flatMap_cons, hpair, ← encodeList, hnew]
      rfl
  | case4 read position hi lo rest e he =>
    exact absurd (h hi List.mem_cons_self) (value?_of_readDigit_error he)
  | case5 read position hi lo rest e he _ =>
    exact absurd (h lo (List.mem_cons_of_mem _ List.mem_cons_self)) (value?_of_readDigit_error he)

/-- Whatever is read is digits of an even number. -/
theorem digits_of_decodeOnto {read octets bytes : Bytes} {position : Nat}
    (h : decodeOnto read position octets = .ok bytes) :
    (∀ octet ∈ octets, (value? octet.toNat).isSome) ∧ octets.length % 2 = 0 := by
  fun_induction decodeOnto read position octets with
  | case1 => exact ⟨fun o ho => absurd ho List.not_mem_nil, rfl⟩
  | case2 => cases h
  | case3 read position hi lo rest high low hlow hhigh ih =>
    obtain ⟨hrest, heven⟩ := ih h
    refine ⟨?_, by simp only [List.length_cons]; omega⟩
    intro octet ho
    rcases List.mem_cons.mp ho with rfl | ho
    · exact Option.isSome_iff_exists.mpr ⟨_, readDigit_eq_ok_iff.mp hhigh⟩
    · rcases List.mem_cons.mp ho with rfl | ho
      · exact Option.isSome_iff_exists.mpr ⟨_, readDigit_eq_ok_iff.mp hlow⟩
      · exact hrest octet ho
  | case4 => cases h
  | case5 => cases h

theorem length_encode_of_digits {s : String} (h : ∀ c ∈ s.toList, IsDigit c) :
    (Utf8.encode s).length = s.toList.length := by
  have hlength := congrArg List.length (map_lower_encode h)
  rwa [toList_toLower, List.length_map, List.length_map] at hlength

theorem decode_of_digits {s : String} (h : ∀ c ∈ s.toList, IsDigit c) (heven : s.toList.length % 2 = 0) :
    ∃ bytes, decode s = .ok bytes ∧ encodeList bytes = s.toLower.toList := by
  rw [← length_encode_of_digits h] at heven
  obtain ⟨bytes, hread, hbytes⟩ := decodeOnto_of_digits [] 0 (isSome_value?_encode_iff.mpr h) heven
  refine ⟨bytes, ?_, by rw [hbytes, map_lower_encode h]⟩
  rw [decode, decodeBytes, if_neg (by omega)]
  exact hread

theorem digits_of_decode {s : String} {bytes : Bytes} (h : decode s = .ok bytes) :
    (∀ c ∈ s.toList, IsDigit c) ∧ s.toList.length % 2 = 0 := by
  rw [decode, decodeBytes] at h
  split at h
  · cases h
  · obtain ⟨hdigits, heven⟩ := digits_of_decodeOnto h
    have hdigits := isSome_value?_encode_iff.mp hdigits
    exact ⟨hdigits, by rw [← length_encode_of_digits hdigits]; exact heven⟩

/-- **A text writes a byte string if its characters are digits,** in lower case those that the byte string is written
with. -/
theorem decode_eq_ok_iff {s : String} {bytes : Bytes} :
    decode s = .ok bytes ↔ (∀ c ∈ s.toList, IsDigit c) ∧ s.toLower.toList = encodeList bytes := by
  constructor
  · intro h
    obtain ⟨hdigits, heven⟩ := digits_of_decode h
    obtain ⟨bytes', hread, hbytes⟩ := decode_of_digits hdigits heven
    rw [h, Except.ok.injEq] at hread
    exact ⟨hdigits, by rw [hread, hbytes]⟩
  · rintro ⟨hdigits, hlower⟩
    have heven : s.toList.length % 2 = 0 := by
      have hlength := congrArg List.length hlower
      rw [toList_toLower, List.length_map, length_encodeList] at hlength
      omega
    obtain ⟨bytes', hread, hbytes⟩ := decode_of_digits hdigits heven
    rw [hread, encodeList_inj (hbytes.trans hlower)]

/-- **A text of digits of an even number writes something,** and no other text does. -/
theorem exists_decode_iff {s : String} :
    (∃ bytes, decode s = .ok bytes) ↔ (∀ c ∈ s.toList, IsDigit c) ∧ s.toList.length % 2 = 0 := by
  constructor
  · rintro ⟨bytes, h⟩
    exact digits_of_decode h
  · rintro ⟨hdigits, heven⟩
    obtain ⟨bytes, h, -⟩ := decode_of_digits hdigits heven
    exact ⟨bytes, h⟩

/-! ## Blanks -/

theorem isBlank_of_isDigit {c : Char} (h : IsDigit c) : Blank.isBlank c = false := by
  have htable : ∀ n : Fin 128, IsDigit (Char.ofNat n) → Blank.isBlank (Char.ofNat n) = false := by decide
  have hc := htable ⟨c.toNat, toNat_lt_of_isDigit h⟩
  rw [Char.ofNat_toNat] at hc
  exact hc h

theorem dropWhile_isBlank_of_digits {cs : List Char} (h : ∀ c ∈ cs, IsDigit c) : cs.dropWhile Blank.isBlank = cs := by
  cases cs with
  | nil => rfl
  | cons c cs => exact List.dropWhile_cons_of_neg (by simp [isBlank_of_isDigit (h c List.mem_cons_self)])

/-- A text of digits has no blanks at its ends. -/
theorem trim_of_digits {s : String} (h : ∀ c ∈ s.toList, IsDigit c) : Blank.trim s = s := by
  have hreverse : ∀ c ∈ s.toList.reverse, IsDigit c := fun c hc => h c (List.mem_reverse.mp hc)
  rw [Blank.trim, Blank.trimList, dropWhile_isBlank_of_digits h, dropWhile_isBlank_of_digits hreverse,
    List.reverse_reverse, String.ofList_toList]

end RunLedger.Text.Hex
