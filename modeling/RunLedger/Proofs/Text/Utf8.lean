import RunLedger.Text.Utf8

/-!
# What is UTF-8

A byte string is read as a text exactly if it is what the text is written as (`decode_eq_ok_iff`), so the texts that can
be read are all texts, and nothing else is taken for one. What is read of a sequence (`scalarHead`) is a character that is
written as this sequence, and not a longer or shorter one (`utf8EncodeChar_of_scalarHead`): the bounds of the second octet
exclude the numbers that are no characters, and those that have a shorter sequence.

An octet of the ASCII range stands for the character with its number wherever it occurs (`toNat_of_mem_utf8EncodeChar`).
So what is in front of the first zero octet is the text in front of the first character zero (`encode_upToZero`).
-/

namespace RunLedger.Text.Utf8

/-- One octet more is gathered if it lies between the bounds. -/
theorem gather_succ_eq_ok {value seen missing lo hi : Nat} {bytes : Bytes} {r : Nat × Bytes}
    (h : gather value seen (missing + 1) lo hi bytes = .ok r) :
    ∃ b rest, bytes = b :: rest ∧ lo ≤ b.toNat ∧ b.toNat ≤ hi ∧
      gather (value * 64 + (b.toNat - 0x80)) (seen + 1) missing 0x80 0xBF rest = .ok r := by
  cases bytes with
  | nil => cases h
  | cons b rest =>
    rw [gather] at h
    split at h
    · rename_i hb
      exact ⟨b, rest, rfl, hb.1, hb.2, h⟩
    · cases h

theorem gather_zero_eq_ok {value seen lo hi n : Nat} {bytes rest : Bytes}
    (h : gather value seen 0 lo hi bytes = .ok (n, rest)) : n = value ∧ bytes = rest := by
  rw [gather, Except.ok.injEq, Prod.mk.injEq] at h
  exact ⟨h.1.symm, h.2⟩

/-- The number of a character is the number of its scalar value. -/
theorem toNat_val_ofNat {n : Nat} (h : n.isValidChar) : (Char.ofNat n).val.toNat = n := by
  rw [Char.ofNat, dif_pos h]
  rfl

theorem ofNat_eq {b : UInt8} {n : Nat} (h : n = b.toNat) : UInt8.ofNat n = b := by
  rw [h, UInt8.ofNat_toNat]

/-- **What is read is a character that is written as the octets that were read.** -/
theorem utf8EncodeChar_of_scalarHead {b : UInt8} {rest rest' : Bytes} {n : Nat}
    (h : scalarHead b rest = .ok (n, rest')) : String.utf8EncodeChar (Char.ofNat n) ++ rest' = b :: rest := by
  simp only [scalarHead] at h
  split at h
  · -- one octet
    rename_i hb
    cases h
    have hn := toNat_val_ofNat (n := b.toNat) (Or.inl (by omega))
    rw [String.utf8EncodeChar, hn]
    simp only [show b.toNat ≤ 0x7f by omega, if_true, List.cons_append, List.nil_append, UInt8.ofNat_toNat]
  split at h
  · cases h
  split at h
  · -- two octets
    obtain ⟨c, rest, rfl, hc, hc', h⟩ := gather_succ_eq_ok h
    obtain ⟨hv, rfl⟩ := gather_zero_eq_ok h
    have hn : (Char.ofNat n).val.toNat = n := toNat_val_ofNat (Or.inl (by omega))
    rw [String.utf8EncodeChar, hn]
    rw [if_neg (by omega), if_pos (by omega), ofNat_eq (b := b) (by omega), ofNat_eq (b := c) (by omega)]
    rfl
  split at h
  · -- three octets
    obtain ⟨c, rest, rfl, hc, hc', h⟩ := gather_succ_eq_ok h
    obtain ⟨d, rest, rfl, hd, hd', h⟩ := gather_succ_eq_ok h
    obtain ⟨hv, rfl⟩ := gather_zero_eq_ok h
    have hlow : 0x800 ≤ n := by split at hc <;> omega
    have hvalid : n < 0xD800 ∨ 0xDFFF < n ∧ n < 0x110000 := by split at hc' <;> omega
    have hc : 0x80 ≤ c.toNat ∧ c.toNat ≤ 0xBF := by split at hc <;> split at hc' <;> omega
    have hn : (Char.ofNat n).val.toNat = n := toNat_val_ofNat hvalid
    rw [String.utf8EncodeChar, hn]
    rw [if_neg (by omega), if_neg (by omega), if_pos (by omega), ofNat_eq (b := b) (by omega),
      ofNat_eq (b := c) (by omega), ofNat_eq (b := d) (by omega)]
    rfl
  split at h
  · -- four octets
    obtain ⟨c, rest, rfl, hc, hc', h⟩ := gather_succ_eq_ok h
    obtain ⟨d, rest, rfl, hd, hd', h⟩ := gather_succ_eq_ok h
    obtain ⟨e, rest, rfl, he, he', h⟩ := gather_succ_eq_ok h
    obtain ⟨hv, rfl⟩ := gather_zero_eq_ok h
    have hlow : 0x10000 ≤ n := by split at hc <;> omega
    have hhigh : n < 0x110000 := by split at hc' <;> omega
    have hc : 0x80 ≤ c.toNat ∧ c.toNat ≤ 0xBF := by split at hc <;> split at hc' <;> omega
    have hn : (Char.ofNat n).val.toNat = n := toNat_val_ofNat (Or.inr ⟨by omega, hhigh⟩)
    rw [String.utf8EncodeChar, hn]
    rw [if_neg (by omega), if_neg (by omega), if_neg (by omega), ofNat_eq (b := b) (by omega),
      ofNat_eq (b := c) (by omega), ofNat_eq (b := d) (by omega), ofNat_eq (b := e) (by omega)]
    rfl
  · cases h

/-- The characters that are read behind others are written as the octets that were left. -/
theorem flatMap_of_decodeOnto {read cs : List Char} {offset : Nat} {bytes : Bytes}
    (h : decodeOnto read offset bytes = .ok cs) :
    ∃ new, cs = read.reverse ++ new ∧ new.flatMap String.utf8EncodeChar = bytes := by
  fun_induction decodeOnto read offset bytes with
  | case1 read offset =>
    cases h
    exact ⟨[], by simp, rfl⟩
  | case2 => cases h
  | case3 read offset b rest c rest' hd _ ih =>
    obtain ⟨new, hcs, hnew⟩ := ih h
    have hc : String.utf8EncodeChar c ++ rest' = b :: rest := by
      unfold decodeHead at hd
      cases hs : scalarHead b rest with
      | error f => rw [hs] at hd; cases hd
      | ok p =>
        rw [hs] at hd
        cases hd
        exact utf8EncodeChar_of_scalarHead (n := p.1) hs
    refine ⟨c :: new, by simp [hcs], ?_⟩
    rw [List.flatMap_cons, hnew, hc]

/-- **A byte string is read as a text exactly if the text is written as this byte string.** -/
theorem decode_eq_ok_iff {bytes : Bytes} {text : String} : decode bytes = .ok text ↔ encode text = bytes := by
  constructor
  · intro h
    unfold decode at h
    cases hd : decodeOnto [] 0 bytes with
    | error e => rw [hd] at h; cases h
    | ok cs =>
      rw [hd] at h
      cases h
      obtain ⟨new, rfl, hnew⟩ := flatMap_of_decodeOnto hd
      rw [encode_eq, String.toList_ofList]
      exact hnew
  · rintro rfl
    exact decode_encode text

/-! ## Octets that are characters -/

/-- **An octet of the ASCII range is the character with its number,** and no part of another one. -/
theorem toNat_of_mem_utf8EncodeChar {c : Char} {b : UInt8} (hb : b ∈ String.utf8EncodeChar c) (h : b.toNat < 0x80) :
    c.toNat = b.toNat := by
  have hvalid : c.val.toNat < 0x110000 := by
    have h : c.toNat < 0xD800 ∨ 0xDFFF < c.toNat ∧ c.toNat < 0x110000 := c.valid
    simp only [Char.toNat] at h
    omega
  have hlarge {n : Nat} (hn : 0x80 ≤ n) (hlt : n < 256) : b ≠ UInt8.ofNat n := by
    rintro rfl
    rw [toNat_ofNat_of_lt hlt] at h
    omega
  rw [String.utf8EncodeChar] at hb
  show c.val.toNat = b.toNat
  generalize c.val.toNat = n at hb hvalid ⊢
  split at hb
  · rw [List.mem_singleton] at hb
    rw [hb, toNat_ofNat_of_lt (by omega)]
  -- all octets of a longer sequence are above the range
  split at hb
  · simp only [List.mem_cons, List.not_mem_nil, or_false] at hb
    obtain hb | hb := hb <;> exact absurd hb (hlarge (by omega) (by omega))
  split at hb
  · simp only [List.mem_cons, List.not_mem_nil, or_false] at hb
    obtain hb | hb | hb := hb <;> exact absurd hb (hlarge (by omega) (by omega))
  · simp only [List.mem_cons, List.not_mem_nil, or_false] at hb
    obtain hb | hb | hb | hb := hb <;> exact absurd hb (hlarge (by omega) (by omega))

/-- An octet of the ASCII range is in a text only if the character is. -/
theorem notMem_encode {s : String} {b : UInt8} (h : b.toNat < 0x80) (hs : Char.ofNat b.toNat ∉ s.toList) :
    b ∉ encode s := by
  intro hb
  rw [encode_eq, List.mem_flatMap] at hb
  obtain ⟨c, hc, hb⟩ := hb
  rw [← toNat_of_mem_utf8EncodeChar hb h, Char.ofNat_toNat] at hs
  exact hs hc

/-! ## Texts that a zero ends -/

/-- What of a text is in front of its first character zero: all of it if there is none. -/
def upToZero (text : String) : String := String.ofList (text.toList.takeWhile (· ≠ '\x00'))

/-- No character but zero is written with a zero octet. -/
theorem ne_zero_of_mem_utf8EncodeChar {c : Char} (hc : c ≠ '\x00') {b : UInt8} (hb : b ∈ String.utf8EncodeChar c) :
    b ≠ 0 := by
  rintro rfl
  have hzero := toNat_of_mem_utf8EncodeChar hb (by decide)
  exact hc (Char.ext (UInt32.toNat_inj.mp hzero))

theorem takeWhile_flatMap_utf8EncodeChar (cs : List Char) :
    (cs.flatMap String.utf8EncodeChar).takeWhile (· ≠ 0) =
      (cs.takeWhile (· ≠ '\x00')).flatMap String.utf8EncodeChar := by
  induction cs with
  | nil => rfl
  | cons c cs ih =>
    by_cases hc : c = '\x00'
    · subst hc
      rfl
    · have hfront : ∀ b ∈ String.utf8EncodeChar c, decide (b ≠ 0) = true := fun b hb =>
        decide_eq_true (ne_zero_of_mem_utf8EncodeChar hc hb)
      have hkeep : (c :: cs).takeWhile (· ≠ '\x00') = c :: cs.takeWhile (· ≠ '\x00') :=
        List.takeWhile_cons_of_pos (decide_eq_true hc)
      rw [List.flatMap_cons, List.takeWhile_append_of_pos hfront, hkeep, List.flatMap_cons, ih]

/-- The octets in front of the first zero are those of the text in front of its first zero. -/
theorem encode_upToZero (text : String) : encode (upToZero text) = (encode text).takeWhile (· ≠ 0) := by
  rw [encode_eq, encode_eq, takeWhile_flatMap_utf8EncodeChar, upToZero, String.toList_ofList]

end RunLedger.Text.Utf8
