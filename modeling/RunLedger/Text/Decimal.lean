/-!
# Decimal numbers

`digits n` writes a natural number with the ten ASCII digits and no leading zero; `value` reads any string of digits
back. `valueBelow?` reads one only as far as it takes to see that the value reaches a bound, so that many digits cost
no more than a few. `readU64?` is the reading that version components use: an optional `+`, at least one digit, a value
below `2^64`.

* `value_digits`: what is written reads back.
* `valueBelow?_eq`: the bounded reading is the reading, for values below the bound.
* `readU64?_eq_some_iff`: exactly which texts are read, and as what.
-/

namespace RunLedger.Text.Decimal

/-- Whether a character is one of the ten ASCII digits. -/
def IsDigit (c : Char) : Prop := 48 ≤ c.toNat ∧ c.toNat ≤ 57

instance (c : Char) : Decidable (IsDigit c) := inferInstanceAs (Decidable (_ ∧ _))

/-- The character of a number below ten. -/
def digit (n : Nat) : Char := Char.ofNat (48 + n % 10)

/-- The decimal digits of a number. -/
def digits (n : Nat) : List Char :=
  if n < 10 then [digit n] else digits (n / 10) ++ [digit n]
termination_by n

/-- The number that a string of digits writes. -/
def value (cs : List Char) : Nat := cs.foldl (fun n c => n * 10 + (c.toNat - 48)) 0

/-- The number that digits write behind some of value `n`, if it is below a bound. -/
def valueBelowFrom? (bound : Nat) : Nat → List Char → Option Nat
  | n, [] => if n < bound then some n else none
  | n, c :: cs => if n < bound then valueBelowFrom? bound (n * 10 + (c.toNat - 48)) cs else none

/-- The number that a string of digits writes, if it is below a bound. -/
def valueBelow? (bound : Nat) (cs : List Char) : Option Nat := valueBelowFrom? bound 0 cs

/-- The decimal text of a number. -/
def text (n : Nat) : String := String.ofList (digits n)

/-- The decimal text of a number, filled up with zeros on the left to at least `width` digits. -/
def padded (width n : Nat) : String :=
  let ds := digits n
  String.ofList (List.replicate (width - ds.length) '0' ++ ds)

/-- A string of at least one digit, and nothing else. -/
def AllDigits (cs : List Char) : Prop := cs ≠ [] ∧ ∀ c ∈ cs, IsDigit c

instance (cs : List Char) : Decidable (AllDigits cs) := inferInstanceAs (Decidable (_ ∧ _))

/-- The text without one leading plus sign. -/
def unsigned : List Char → List Char
  | '+' :: cs => cs
  | cs => cs

/-- A 64-bit component: an optional plus sign, then digits whose value is below `2^64`. -/
def readU64? (cs : List Char) : Option UInt64 :=
  if AllDigits (unsigned cs) then (valueBelow? UInt64.size (unsigned cs)).map UInt64.ofNat else none

theorem toNat_digit (n : Nat) : (digit n).toNat = 48 + n % 10 := by
  have h : (48 + n % 10).isValidChar := Or.inl (by omega)
  rw [digit, Char.ofNat, dif_pos h]
  rfl

theorem isDigit_digit (n : Nat) : IsDigit (digit n) := by
  simp only [IsDigit, toNat_digit]; omega

theorem value_append_singleton (cs : List Char) (c : Char) : value (cs ++ [c]) = value cs * 10 + (c.toNat - 48) := by
  simp [value]

theorem le_foldl_value (n : Nat) (cs : List Char) : n ≤ cs.foldl (fun n c => n * 10 + (c.toNat - 48)) n := by
  induction cs generalizing n with
  | nil => exact Nat.le_refl n
  | cons c cs ih => exact Nat.le_trans (by omega) (ih (n * 10 + (c.toNat - 48)))

theorem valueBelowFrom?_eq (bound n : Nat) (cs : List Char) :
    valueBelowFrom? bound n cs =
      (let v := cs.foldl (fun n c => n * 10 + (c.toNat - 48)) n; if v < bound then some v else none) := by
  induction cs generalizing n with
  | nil => rfl
  | cons c cs ih =>
    unfold valueBelowFrom?
    split
    · exact ih (n * 10 + (c.toNat - 48))
    · have h := le_foldl_value n (c :: cs)
      exact (if_neg (by omega)).symm

/-- Reading up to a bound is reading, for values below the bound. -/
theorem valueBelow?_eq (bound : Nat) (cs : List Char) :
    valueBelow? bound cs = if value cs < bound then some (value cs) else none := valueBelowFrom?_eq bound 0 cs

/-- A number reads back from its digits. -/
theorem value_digits (n : Nat) : value (digits n) = n := by
  induction n using Nat.strongRecOn with
  | ind n ih =>
    rw [digits]
    split
    · simp [value, toNat_digit]; omega
    · rw [value_append_singleton, ih (n / 10) (by omega), toNat_digit]; omega

theorem digits_ne_nil (n : Nat) : digits n ≠ [] := by
  rw [digits]; split <;> simp

theorem isDigit_of_mem_digits {n : Nat} {c : Char} (h : c ∈ digits n) : IsDigit c := by
  induction n using Nat.strongRecOn with
  | ind n ih =>
    rw [digits] at h
    split at h
    · simp at h; exact h ▸ isDigit_digit n
    · simp at h
      rcases h with h | h
      · exact ih (n / 10) (by omega) h
      · exact h ▸ isDigit_digit n

theorem allDigits_digits (n : Nat) : AllDigits (digits n) := ⟨digits_ne_nil n, fun _ => isDigit_of_mem_digits⟩

/-- The texts that are read as a 64-bit component. -/
theorem readU64?_eq_some_iff {cs : List Char} {u : UInt64} :
    readU64? cs = some u ↔ AllDigits (unsigned cs) ∧ value (unsigned cs) = u.toNat := by
  rw [readU64?, valueBelow?_eq]
  constructor
  · intro h
    split at h
    · rename_i ha
      split at h
      · rename_i hv
        cases h
        exact ⟨ha, by rw [UInt64.toNat_ofNat', Nat.mod_eq_of_lt hv]⟩
      · cases h
    · cases h
  · rintro ⟨ha, hv⟩
    have : value (unsigned cs) < UInt64.size := by rw [hv]; exact u.toNat_lt
    rw [if_pos ha, if_pos this, hv]
    simp

/-- What is in front of the unsigned text is one plus sign or nothing. -/
theorem exists_sign (cs : List Char) : ∃ plus : Bool, cs = if plus then '+' :: unsigned cs else unsigned cs := by
  unfold unsigned
  split
  · exact ⟨true, rfl⟩
  · exact ⟨false, rfl⟩

/-- No sign is in front of a digit. -/
theorem AllDigits.unsigned_eq {cs : List Char} (h : AllDigits cs) : unsigned cs = cs := by
  unfold unsigned
  split
  · exact absurd (h.2 '+' List.mem_cons_self) (by decide)
  · rfl

end RunLedger.Text.Decimal
