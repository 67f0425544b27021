import Mathlib.Data.List.DropRight
import RunLedger.Double.Shortest
import RunLedger.Proofs.Json.Literal

/-!
# Doubles as literals

A double is written as a number that JSON knows (`ofDouble_spec`). What this takes is that the shortest decimal of a
number that is not zero has a digit that is no zero (`shortest_ne_zero`): then there are digits to write, and the first
is no zero. The search for the shortest decimal ends, if nothing else, at a grid on which the number is not rounded down
to zero, because the estimate of the first digit's place is off by less than the sixteen places that are added.
-/

namespace RunLedger

open Text.Decimal (IsDigit AllDigits digit digits digits_ne_nil isDigit_of_mem_digits allDigits_digits toNat_digit)

/-! ## Digits without zeros at the ends -/

theorem Text.Decimal.digits_zero : digits 0 = ['0'] := by
  rw [digits]
  rfl

theorem Text.Decimal.allDigits_zero : AllDigits ['0'] := digits_zero ▸ allDigits_digits 0

theorem Text.Decimal.head?_digits_ne_zero {n : Nat} (h : n ≠ 0) : (digits n).head? ≠ some '0' := by
  induction n using Nat.strongRecOn with
  | ind n ih =>
    rw [digits]
    split
    · intro hd
      have hzero : (digit n).toNat = '0'.toNat := congrArg Char.toNat (Option.some.inj hd)
      rw [toNat_digit, Nat.mod_eq_of_lt ‹n < 10›] at hzero
      exact h (Nat.add_left_cancel hzero)
    · have hfront := ih (n / 10) (by omega) (by omega)
      rw [List.head?_append_of_ne_nil _ (digits_ne_nil _)]
      exact hfront

namespace Double

/-- Digits with no zero in front. -/
structure Significant (ds : List Char) : Prop where
  digits : AllDigits ds
  leading : ds.head? ≠ some '0'

theorem significant_normal {n : Nat} (h : n ≠ 0) (power : Int) : Significant (normal n power).1 := by
  have hnormal : (normal n power).1 = (digits n).rdropWhile (· = '0') := rfl
  have hleading := Text.Decimal.head?_digits_ne_zero h
  have hkept := List.rdropWhile_prefix (p := fun c => decide (c = '0')) (digits n)
  have hne : (normal n power).1 ≠ [] := by
    intro he
    rw [hnormal, List.rdropWhile_eq_nil_iff] at he
    cases hd : digits n with
    | nil => exact digits_ne_nil n hd
    | cons c cs =>
      rw [hd] at he hleading
      exact hleading (congrArg some (of_decide_eq_true (he c List.mem_cons_self)))
  refine ⟨⟨hne, fun c hc => isDigit_of_mem_digits (hkept.subset (hnormal ▸ hc))⟩, ?_⟩
  obtain ⟨zeros, hzeros⟩ := hkept
  rw [← hzeros, ← hnormal, List.head?_append_of_ne_nil _ hne] at hleading
  exact hleading

/-! ## The two forms of a number -/

open Json (Number)

theorem isDigit_of_mem_replicate {k : Nat} {c : Char} (h : c ∈ List.replicate k '0') : IsDigit c := by
  rw [List.eq_of_mem_replicate h]
  decide

theorem Significant.take {ds : List Char} (h : Significant ds) {k : Nat} (hk : k ≠ 0) : Significant (ds.take k) := by
  refine ⟨⟨?_, fun c hc => h.digits.2 c (List.mem_of_mem_take hc)⟩, ?_⟩
  · rw [Ne, List.take_eq_nil_iff]
    rintro (hzero | hnil)
    · exact hk hzero
    · exact h.digits.1 hnil
  · rw [List.head?_take, if_neg hk]
    exact h.leading

theorem Significant.filled {ds : List Char} (h : Significant ds) (k : Nat) :
    Significant (ds ++ List.replicate k '0') := by
  refine ⟨⟨List.append_ne_nil_of_left_ne_nil h.digits.1 _, fun c hc => ?_⟩, ?_⟩
  · rcases List.mem_append.mp hc with hc | hc
    · exact h.digits.2 c hc
    · exact isDigit_of_mem_replicate hc
  · rw [List.head?_append_of_ne_nil _ h.digits.1]
    exact h.leading

/-- What is written positionally is a number. -/
theorem exists_positional {ds : List Char} (h : Significant ds) (whole : Int) (negative : Bool) :
    ∃ n : Number, n.WellFormed ∧ n.negative = negative ∧ n.unsigned = positional ds whole := by
  by_cases hw : whole ≤ 0
  · have hzeros : ∀ c ∈ List.replicate (-whole).toNat '0' ++ ds, IsDigit c := by
      intro c hc
      rcases List.mem_append.mp hc with hc | hc
      · exact isDigit_of_mem_replicate hc
      · exact h.digits.2 c hc
    refine ⟨⟨negative, ['0'], List.replicate (-whole).toNat '0' ++ ds, none⟩,
      Number.wellFormed_of_none Text.Decimal.allDigits_zero (fun _ => rfl) hzeros, rfl, ?_⟩
    simp [Number.unsigned, Number.fractionPart, Number.exponentPart, positional, hw, h.digits.1]
  · -- the digits in front of the point are filled up with zeros, and a zero stands behind it if there is no digit left
    have hk : whole.toNat ≠ 0 := by omega
    have hfront := (h.take hk).filled (whole.toNat - ds.length)
    have hback : AllDigits (if (ds.drop whole.toNat).isEmpty then ['0'] else ds.drop whole.toNat) := by
      split
      · exact Text.Decimal.allDigits_zero
      · rename_i hne
        exact ⟨fun hnil => hne (by rw [hnil]; rfl), fun c hc => h.digits.2 c (List.mem_of_mem_drop hc)⟩
    rw [positional, if_neg hw]
    dsimp only
    generalize (if (ds.drop whole.toNat).isEmpty then ['0'] else ds.drop whole.toNat) = back at hback ⊢
    refine ⟨⟨negative, _, back, none⟩,
      Number.wellFormed_of_none hfront.digits (fun hz => absurd hz hfront.leading) hback.2, rfl, ?_⟩
    simp [Number.unsigned, Number.fractionPart, Number.exponentPart, hback.1]

/-- What is written with an exponent is a number. -/
theorem exists_scientific {ds : List Char} (h : Significant ds) (e : Int) (negative : Bool) :
    ∃ n : Number, n.WellFormed ∧ n.negative = negative ∧ n.unsigned = scientific ds e := by
  have hfirst := h.take Nat.one_ne_zero
  have hrest : ∀ c ∈ ds.drop 1, IsDigit c := fun c hc => h.digits.2 c (List.mem_of_mem_drop hc)
  have hexponent : ∀ down digits, some (decide (e < 0), Text.Decimal.digits e.natAbs) = some (down, digits) →
      AllDigits digits := by
    rintro _ _ he
    cases he
    exact allDigits_digits _
  refine ⟨⟨negative, ds.take 1, ds.drop 1, some (decide (e < 0), Text.Decimal.digits e.natAbs)⟩,
    ⟨hfirst.digits, fun hz => absurd hz hfirst.leading, hrest, hexponent⟩, rfl, ?_⟩
  have hempty : (ds.drop 1).isEmpty = decide (ds.length ≤ 1) := by
    cases ds with
    | nil => rfl
    | cons c cs => cases cs <;> rfl
  simp only [Number.unsigned, Number.fractionPart, Number.exponentPart, scientific, hempty, List.append_assoc]
  by_cases he : e < 0
  · simp [he, Int.not_le.mpr he]
  · simp [he, Int.not_lt.mp he]

/-! ## The shortest decimal is not zero -/

namespace Interval

/-- Whether the middle is at least ten to the given power. -/
def AtLeast (i : Interval) (e : Int) : Prop := i.den * Nat.pow 10 e.toNat ≤ i.mid * Nat.pow 10 (-e).toNat

instance (i : Interval) : DecidablePred i.AtLeast := fun e =>
  inferInstanceAs (Decidable (i.den * Nat.pow 10 e.toNat ≤ i.mid * Nat.pow 10 (-e).toNat))

variable {i : Interval}

theorem AtLeast.mono {e e' : Int} (h : i.AtLeast e) (he : e' ≤ e) : i.AtLeast e' := by
  have hup : Nat.pow 10 e'.toNat ≤ Nat.pow 10 e.toNat := Nat.pow_le_pow_right (by decide) (by omega)
  have hdown : Nat.pow 10 (-e).toNat ≤ Nat.pow 10 (-e').toNat := Nat.pow_le_pow_right (by decide) (by omega)
  calc i.den * Nat.pow 10 e'.toNat ≤ i.den * Nat.pow 10 e.toNat := Nat.mul_le_mul_left _ hup
    _ ≤ i.mid * Nat.pow 10 (-e).toNat := h
    _ ≤ i.mid * Nat.pow 10 (-e').toNat := Nat.mul_le_mul_left _ hdown

/-- A grid that is no coarser than the number has a point below it. -/
theorem AtLeast.floor_ne_zero {power : Int} (h : i.AtLeast power) (hd : 0 < i.den) : i.floor power ≠ 0 := by
  have hpos : 0 < i.den * Nat.pow 10 power.toNat := Nat.mul_pos hd (Nat.pow_pos (by decide))
  exact Nat.ne_of_gt (Nat.div_pos h hpos)

theorem ne_zero_of_onGrid? {power : Int} {n : Nat} (h : i.onGrid? power = some n) : n ≠ 0 := by
  unfold onGrid? at h
  dsimp only at h
  split at h
  · rename_i hlow _
    have hn : i.floor power ≠ 0 := of_decide_eq_true (Bool.and_eq_true _ _ ▸ hlow).2
    cases h
    split <;> omega
  · rename_i hlow _
    have hn : i.floor power ≠ 0 := of_decide_eq_true (Bool.and_eq_true _ _ ▸ hlow).2
    cases h
    exact hn
  · cases h
    exact Nat.succ_ne_zero _
  · cases h

/-- The search finds a point that is not zero, if there is one on its last grid. -/
theorem search_ne_zero {leading : Int} (h : i.floor (leading - 16) ≠ 0) (digits more : Nat) :
    (i.search leading digits more).1 ≠ 0 := by
  induction more generalizing digits with
  | zero => exact h
  | succ more ih =>
    rw [search]
    split
    · rename_i hn
      exact ne_zero_of_onGrid? hn
    · exact ih (digits + 1)

/-- The estimate that the search for the first digit starts from. -/
def guess (i : Interval) : Int := ((Nat.log2 i.mid : Int) - Nat.log2 i.den - 1) * 30103 / 100000 - 1

theorem leading_cases (i : Interval) : i.AtLeast i.leading ∨ i.leading = i.guess := by
  unfold leading
  dsimp only
  split
  · rename_i h
    exact Or.inl (of_decide_eq_true h)
  · split
    · rename_i h
      exact Or.inl (of_decide_eq_true h)
    · exact Or.inr rfl

end Interval

/-! ### The estimate of the first digit -/

theorem ten_pow_le_two_pow {k n : Nat} (h : 10 * k ≤ 3 * n) : Nat.pow 10 k ≤ Nat.pow 2 n := by
  refine (Nat.pow_le_pow_iff_left (by decide : 3 ≠ 0)).mp ?_
  calc Nat.pow (Nat.pow 10 k) 3 = Nat.pow (Nat.pow 10 3) k := Nat.pow_right_comm 10 k 3
    _ ≤ Nat.pow (Nat.pow 2 10) k := Nat.pow_le_pow_left (by decide) k
    _ = Nat.pow 2 (10 * k) := (Nat.pow_mul 2 10 k).symm
    _ ≤ Nat.pow 2 (3 * n) := Nat.pow_le_pow_right (by decide) h
    _ = Nat.pow 2 (n * 3) := by rw [Nat.mul_comm]
    _ = Nat.pow (Nat.pow 2 n) 3 := Nat.pow_mul 2 n 3

theorem two_pow_le_ten_pow {k n : Nat} (h : 4 * n ≤ 13 * k) : Nat.pow 2 n ≤ Nat.pow 10 k := by
  refine (Nat.pow_le_pow_iff_left (by decide : 4 ≠ 0)).mp ?_
  calc Nat.pow (Nat.pow 2 n) 4 = Nat.pow 2 (n * 4) := (Nat.pow_mul 2 n 4).symm
    _ = Nat.pow 2 (4 * n) := by rw [Nat.mul_comm]
    _ ≤ Nat.pow 2 (13 * k) := Nat.pow_le_pow_right (by decide) h
    _ = Nat.pow (Nat.pow 2 13) k := Nat.pow_mul 2 13 k
    _ ≤ Nat.pow (Nat.pow 10 4) k := Nat.pow_le_pow_left (by decide) k
    _ = Nat.pow (Nat.pow 10 k) 4 := Nat.pow_right_comm 10 4 k

/-- The estimate is too high by less than sixteen, for numbers of the size of doubles. -/
theorem Interval.atLeast_guess {i : Interval} {a b : Nat} (ha : Nat.log2 i.mid = a) (hb : Nat.log2 i.den = b)
    (hmid : i.mid ≠ 0) (hden : i.den = Nat.pow 2 b) (hlow : (a : Int) - b ≤ 1100) (hhigh : (b : Int) - a ≤ 1100) :
    i.AtLeast (i.guess - 16) := by
  have hguess : i.guess = ((a : Int) - b - 1) * 30103 / 100000 - 1 := by rw [guess, ha, hb]
  have htwo : Nat.pow 2 a ≤ i.mid := ha ▸ Nat.log2_self_le hmid
  rw [AtLeast, hguess, hden]
  generalize hg : ((a : Int) - b - 1) * 30103 / 100000 - 1 - 16 = g
  refine Nat.le_trans ?_ (Nat.mul_le_mul_right _ htwo)
  by_cases hsign : 0 ≤ g
  · have hzero : (-g).toNat = 0 := by omega
    have hten : Nat.pow 10 g.toNat ≤ Nat.pow 2 (a - b) := ten_pow_le_two_pow (by omega)
    rw [hzero]
    calc Nat.pow 2 b * Nat.pow 10 g.toNat ≤ Nat.pow 2 b * Nat.pow 2 (a - b) := Nat.mul_le_mul_left _ hten
      _ = Nat.pow 2 (b + (a - b)) := (Nat.pow_add 2 b (a - b)).symm
      _ = Nat.pow 2 a := by rw [Nat.add_sub_cancel' (by omega)]
      _ = Nat.pow 2 a * 1 := (Nat.mul_one _).symm
  · have hzero : g.toNat = 0 := by omega
    have hten : Nat.pow 2 (b - a) ≤ Nat.pow 10 (-g).toNat := two_pow_le_ten_pow (by omega)
    rw [hzero]
    calc Nat.pow 2 b * 1 = Nat.pow 2 b := Nat.mul_one _
      _ ≤ Nat.pow 2 (a + (b - a)) := Nat.pow_le_pow_right (by decide) (by omega)
      _ = Nat.pow 2 a * Nat.pow 2 (b - a) := Nat.pow_add 2 a (b - a)
      _ ≤ Nat.pow 2 a * Nat.pow 10 (-g).toNat := Nat.mul_le_mul_left _ hten

/-! ### Doubles -/

variable {d : Double}

theorem mantissa_lt (d : Double) : d.mantissa < Nat.pow 2 53 := by
  have hfraction : d.fractionField < fractions := Nat.mod_lt _ (by decide)
  have hfractions : fractions + fractions = Nat.pow 2 53 := by decide
  rw [mantissa]
  split <;> omega

theorem exponent_bounds (d : Double) : -1074 ≤ d.exponent ∧ d.exponent ≤ 972 := by
  have hfield : d.exponentField < 2048 := Nat.mod_lt _ (by decide)
  rw [exponent]
  split <;> omega

/-- The numbers of binary digits in front of and behind the point, and what they come to. -/
theorem log2_interval (h : d.mantissa ≠ 0) :
    ∃ up down : Nat, (up = 0 ∨ down = 0) ∧ up ≤ 972 ∧ down ≤ 1074 ∧ d.interval.den = Nat.pow 2 (2 + down) ∧
      Nat.pow 2 (2 + up) ≤ d.interval.mid ∧ d.interval.mid < Nat.pow 2 (55 + up) := by
  have hbounds := d.exponent_bounds
  have hlow : Nat.pow 2 2 ≤ 4 * d.mantissa := Nat.mul_le_mul_left 4 (Nat.pos_of_ne_zero h)
  have hhigh : 4 * d.mantissa < Nat.pow 2 55 := (Nat.mul_lt_mul_left (by decide)).mpr d.mantissa_lt
  have hmid : d.interval.mid = 4 * d.mantissa * Nat.pow 2 d.exponent.toNat := Nat.shiftLeft_eq _ _
  have hden : d.interval.den = Nat.pow 2 2 * Nat.pow 2 (-d.exponent).toNat := Nat.shiftLeft_eq _ _
  have hpos : 0 < Nat.pow 2 d.exponent.toNat := Nat.pow_pos (by decide)
  refine ⟨d.exponent.toNat, (-d.exponent).toNat, by omega, by omega, by omega, ?_, ?_, ?_⟩
  · rw [hden]
    exact (Nat.pow_add 2 2 _).symm
  · rw [hmid]
    exact Nat.le_trans (Nat.le_of_eq (Nat.pow_add 2 2 _)) (Nat.mul_le_mul_right _ hlow)
  · rw [hmid]
    exact Nat.lt_of_lt_of_eq ((Nat.mul_lt_mul_right hpos).mpr hhigh) (Nat.pow_add 2 55 _).symm

/-- **The shortest decimal of a number that is not zero is not zero.** -/
theorem shortest_ne_zero (h : d.mantissa ≠ 0) : d.shortest.1 ≠ 0 := by
  obtain ⟨up, down, hzero, hup, hdown, hden, hlow, hhigh⟩ := log2_interval h
  have hmid : d.interval.mid ≠ 0 := Nat.ne_of_gt (Nat.lt_of_lt_of_le (Nat.pow_pos (by decide)) hlow)
  have hpos : 0 < d.interval.den := hden ▸ Nat.pow_pos (by decide)
  have hb : Nat.log2 d.interval.den = 2 + down := hden ▸ Nat.log2_two_pow
  have ha : Nat.log2 d.interval.mid < 55 + up := (Nat.log2_lt hmid).mpr hhigh
  have ha' : 2 + up ≤ Nat.log2 d.interval.mid := (Nat.le_log2 hmid).mpr hlow
  have hguess : d.interval.AtLeast (d.interval.guess - 16) :=
    Interval.atLeast_guess rfl hb hmid hden (by omega) (by omega)
  have hleading : d.interval.AtLeast (d.interval.leading - 16) := by
    obtain hl | hl := d.interval.leading_cases
    · exact hl.mono (by omega)
    · rw [hl]
      exact hguess
  exact Interval.search_ne_zero (hleading.floor_ne_zero hpos) 1 17

/-! ## Literals -/

/-- **What is written of a double is a number that JSON knows,** with the sign of the double. -/
theorem exists_text (d : Double) : ∃ n : Number, n.WellFormed ∧ d.text = n.text := by
  by_cases hm : d.mantissa = 0
  · have hzero := Text.Decimal.allDigits_zero
    refine ⟨⟨d.isNegative, ['0'], ['0'], none⟩, Number.wellFormed_of_none hzero (fun _ => rfl) hzero.2, ?_⟩
    rw [text, if_pos hm, Number.text_eq]
    rfl
  · have hnonzero := shortest_ne_zero hm
    cases hshortest : d.shortest with
    | mk number power =>
    rw [hshortest] at hnonzero
    have hds := significant_normal hnonzero power
    cases hnormal : normal number power with
    | mk ds e =>
    rw [hnormal] at hds
    have htext : d.text = (if d.isNegative then ['-'] else []) ++
        if leastPositional ≤ e ∧ e ≤ greatestPositional then positional ds (e + 1) else scientific ds e := by
      rw [text, if_neg hm, hshortest]
      simp only [hnormal]
    obtain ⟨n, hn, hnegative, hunsigned⟩ : ∃ n : Number, n.WellFormed ∧ n.negative = d.isNegative ∧ n.unsigned =
        if leastPositional ≤ e ∧ e ≤ greatestPositional then positional ds (e + 1) else scientific ds e := by
      split
      · exact exists_positional hds (e + 1) d.isNegative
      · exact exists_scientific hds e d.isNegative
    exact ⟨n, hn, by rw [htext, Number.text_eq, hnegative, hunsigned]⟩

end Double

/-! ### Their parts -/

namespace Json.Number

variable {n : Number}

/-- The parts of a number are found in what is written of it. -/
theorem split_unsigned (h : n.WellFormed) : split n.unsigned = (n.whole, n.fraction, n.exponent) := by
  have hplain {c : Char} (hc : IsDigit c) : (c != '.' && c != 'e') = true := by
    have hdot : c ≠ '.' := by
      rintro rfl
      exact absurd hc (by decide)
    have he : c ≠ 'e' := by
      rintro rfl
      exact absurd hc (by decide)
    simp [hdot, he]
  have hexponent : ∀ c ∈ n.exponentPart.head?, (c != '.' && c != 'e') = false := by
    intro c hc
    cases he : n.exponent with
    | none =>
      rw [exponentPart_of_none he] at hc
      cases hc
    | some e =>
      obtain ⟨down, digits⟩ := e
      rw [exponentPart_of_some he] at hc
      cases hc
      rfl
  have hfraction : ∀ c ∈ (n.fractionPart ++ n.exponentPart).head?, (c != '.' && c != 'e') = false := by
    intro c hc
    rw [fractionPart] at hc
    split at hc
    · exact hexponent c hc
    · cases hc
      rfl
  obtain ⟨hwhole, hbehind⟩ := Json.span_append (fun c hc => hplain (h.whole.2 c hc)) hfraction
  obtain ⟨htake, hdrop⟩ := Json.span_append (fun c hc => hplain (h.fraction c hc)) hexponent
  simp only [split, unsigned, hwhole, hbehind]
  obtain ⟨negative, whole, fraction, exponent⟩ := n
  cases fraction with
  | nil =>
    cases exponent with
    | none => rfl
    | some e =>
      obtain ⟨down, digits⟩ := e
      cases down <;> rfl
  | cons c more =>
    simp only [fractionPart, List.isEmpty_cons, Bool.false_eq_true, if_false, List.cons_append]
    rw [← List.cons_append, htake, hdrop]
    cases exponent with
    | none => rfl
    | some e =>
      obtain ⟨down, digits⟩ := e
      cases down <;> rfl

/-- A double is written with the parts of any number that is written alike. -/
theorem ofDouble_of_text {d : Double} (h : n.WellFormed) (ht : d.text = n.text) : ofDouble d = n := by
  have hparts := split_unsigned h
  rw [ofDouble, ht, text_eq]
  cases hn : n.negative with
  | true =>
    simp only [if_true, List.singleton_append, hparts, ← hn]
  | false =>
    obtain ⟨c, more, hc, hdigit⟩ := h.exists_digit
    have hsign : c ≠ '-' := by
      rintro rfl
      exact absurd hdigit (by decide)
    rw [hc] at hparts
    simp only [Bool.false_eq_true, if_false, List.nil_append, hc]
    split
    · rename_i hminus
      exact absurd (List.cons.inj hminus).1 hsign
    · rw [hparts, ← hn]

/-- **The literal of a double is written as the double is,** and is a number that JSON knows. -/
theorem ofDouble_spec (d : Double) : (ofDouble d).WellFormed ∧ (ofDouble d).text = d.text := by
  obtain ⟨n, hn, ht⟩ := d.exists_text
  rw [ofDouble_of_text hn ht]
  exact ⟨hn, ht.symm⟩

end Json.Number

end RunLedger
