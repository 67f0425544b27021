import RunLedger.Message.Basic

/-!
# Arithmetic of readings and spans

A reading of the clock stands for a number of nanoseconds since the epoch (`Timestamp.total`), and is determined by it
if its nanoseconds are below a second (`Timestamp.Normal`, `eq_of_total_eq`). All that is done to readings is arithmetic
of these numbers: `Normal.add?`, `Normal.durationSince?`, `toNat_asMillis` and, for normal readings, `compare_eq`.

* `arithmetic_exact`: sums and differences are exact between zero and the longest span, and the order of the fields is
  that of time.
-/

namespace RunLedger

/-! ## Spans -/

namespace Duration

theorem total_le_max (d : Duration) : d.total ≤ max.total := Nat.le_sub_one_of_lt d.total_lt

theorem total_clamp (n : Nat) : (clamp n).total = min n max.total := by
  unfold clamp
  split
  · rename_i h
    exact (Nat.min_eq_left (Nat.le_sub_one_of_lt h)).symm
  · rename_i h
    exact (Nat.min_eq_right (Nat.sub_le_of_le_add (Nat.le_succ_of_le (Nat.le_of_not_lt h)))).symm

@[simp] theorem total_add (a b : Duration) : (a.add b).total = min (a.total + b.total) max.total := total_clamp _

@[simp] theorem total_sub (a b : Duration) : (a.sub b).total = a.total - b.total := rfl

end Duration

/-! ## Readings -/

namespace Timestamp

/-- Nanoseconds since the epoch. -/
def total (t : Timestamp) : Nat := t.seconds.toNat * nanosPerSecond + t.nanos.toNat

/-- The nanoseconds are less than a second. -/
def Normal (t : Timestamp) : Prop := t.nanos.toNat < nanosPerSecond

instance : DecidablePred Normal := fun t => inferInstanceAs (Decidable (t.nanos.toNat < nanosPerSecond))

section

variable {a b t : Timestamp} {d : Duration}

/-- A normal reading stands for a span since the epoch. -/
theorem Normal.total_le (h : t.Normal) : t.total ≤ Duration.max.total := by
  have hs := t.seconds.toNat_lt
  simp only [Normal, total, Duration.max, nanosPerSecond, UInt64.size] at *
  omega

theorem sinceEpoch?_eq (t : Timestamp) : t.sinceEpoch? =
    if h : t.total < UInt64.size * nanosPerSecond then some ⟨t.total, h⟩ else none := rfl

theorem Normal.sinceEpoch? (h : t.Normal) : ∃ d, t.sinceEpoch? = some d ∧ d.total = t.total := by
  have hlt : t.total < UInt64.size * nanosPerSecond := Nat.lt_of_le_sub_one (by decide) h.total_le
  exact ⟨⟨t.total, hlt⟩, by rw [sinceEpoch?_eq, dif_pos hlt], rfl⟩

theorem total_of_sinceEpoch? (h : t.sinceEpoch? = some d) : d.total = t.total := by
  rw [sinceEpoch?_eq] at h
  split at h
  · exact congrArg Duration.total (Option.some.inj h.symm)
  · cases h

/-- **A reading stands for no span exactly if its seconds, with those in its nanoseconds, pass the last second.** -/
theorem sinceEpoch?_eq_none_iff :
    t.sinceEpoch? = none ↔ UInt64.size ≤ t.seconds.toNat + t.nanos.toNat / nanosPerSecond := by
  have hcarry : ¬t.total < UInt64.size * nanosPerSecond ↔
      UInt64.size ≤ t.seconds.toNat + t.nanos.toNat / nanosPerSecond := by
    simp only [total, nanosPerSecond, UInt64.size]
    omega
  rw [← hcarry, sinceEpoch?_eq]
  split <;> simp_all

/-! ## Readings from spans -/

theorem normal_ofDuration (d : Duration) : (ofDuration d).Normal := by
  simp only [Normal, ofDuration, Duration.nanos, nanosPerSecond, UInt32.toNat_ofNat']
  omega

theorem total_ofDuration (d : Duration) : (ofDuration d).total = d.total := by
  have h := d.total_lt
  simp only [total, ofDuration, Duration.seconds, Duration.nanos, nanosPerSecond, UInt64.size, UInt64.toNat_ofNat',
    UInt32.toNat_ofNat'] at *
  omega

/-- A normal reading is determined by what it stands for. -/
theorem eq_of_total_eq (ha : a.Normal) (hb : b.Normal) (h : a.total = b.total) : a = b := by
  obtain ⟨s, n⟩ := a
  obtain ⟨s', n'⟩ := b
  simp only [Normal, total, nanosPerSecond] at ha hb h
  obtain rfl : s = s' := UInt64.toNat_inj.mp (by omega)
  obtain rfl : n = n' := UInt32.toNat_inj.mp (by omega)
  rfl

/-! ## Sums, differences and order -/

/-- **A sum is exact up to the longest span, and normal.** -/
theorem Normal.add? (h : t.Normal) (d : Duration) :
    ∃ s, t.add? d = some s ∧ s.Normal ∧ s.total = min (t.total + d.total) Duration.max.total := by
  obtain ⟨e, he, hetotal⟩ := h.sinceEpoch?
  refine ⟨ofDuration (e.add d), by rw [Timestamp.add?, he]; rfl, normal_ofDuration _, ?_⟩
  rw [total_ofDuration, Duration.total_add, hetotal]

/-- **A difference is exact from zero on.** -/
theorem Normal.durationSince? (ha : a.Normal) (hb : b.Normal) :
    ∃ d, b.durationSince? a = some d ∧ d.total = b.total - a.total := by
  obtain ⟨x, hx, hxtotal⟩ := ha.sinceEpoch?
  obtain ⟨y, hy, hytotal⟩ := hb.sinceEpoch?
  refine ⟨y.sub x, by rw [Timestamp.durationSince?, hy, hx]; rfl, ?_⟩
  rw [Duration.total_sub, hxtotal, hytotal]

theorem add?_eq_none_iff : t.add? d = none ↔ t.sinceEpoch? = none := by
  rw [add?]
  cases t.sinceEpoch? <;> simp

theorem durationSince?_eq_none_iff :
    b.durationSince? a = none ↔ b.sinceEpoch? = none ∨ a.sinceEpoch? = none := by
  rw [durationSince?]
  cases b.sinceEpoch? <;> cases a.sinceEpoch? <;> simp

theorem le_iff : a.le b ↔ a.seconds.toNat < b.seconds.toNat ∨
    a.seconds.toNat = b.seconds.toNat ∧ a.nanos.toNat ≤ b.nanos.toNat := by
  simp [le, UInt64.lt_iff_toNat_lt, UInt32.le_iff_toNat_le, UInt64.toNat_inj]

theorem le_refl (t : Timestamp) : t.le t := le_iff.mpr (Or.inr ⟨rfl, Nat.le_refl _⟩)

/-- **The order of the fields is that of time.** -/
theorem le_iff_total_le (ha : a.Normal) (hb : b.Normal) : a.le b ↔ a.total ≤ b.total := by
  rw [le_iff]
  simp only [Normal, total, nanosPerSecond] at *
  omega

theorem compare_eq (ha : a.Normal) (hb : b.Normal) : a.compare b = Ord.compare a.total b.total := by
  have hs : Ord.compare a.seconds b.seconds = Ord.compare a.seconds.toNat b.seconds.toNat := by
    simp [Ord.compare, compareOfLessAndEq, UInt64.lt_iff_toNat_lt, UInt64.toNat_inj]
  have hn : Ord.compare a.nanos b.nanos = Ord.compare a.nanos.toNat b.nanos.toNat := by
    simp [Ord.compare, compareOfLessAndEq, UInt32.lt_iff_toNat_lt, UInt32.toNat_inj]
  rw [Timestamp.compare, hs, hn]
  simp only [Normal, nanosPerSecond] at ha hb
  rcases Nat.lt_trichotomy a.seconds.toNat b.seconds.toNat with h | h | h
  · have htotal : a.total < b.total := by simp only [total, nanosPerSecond]; omega
    rw [Nat.compare_eq_lt.mpr h, Nat.compare_eq_lt.mpr htotal]
    rfl
  · rw [Nat.compare_eq_eq.mpr h, total, total, h, Nat.compare_eq_ite_lt, Nat.compare_eq_ite_lt]
    simp only [Nat.add_lt_add_iff_left]
    rfl
  · have htotal : b.total < a.total := by simp only [total, nanosPerSecond]; omega
    rw [Nat.compare_eq_gt.mpr h, Nat.compare_eq_gt.mpr htotal]
    rfl

/-- Milliseconds are those of the time, up to the largest number. -/
theorem toNat_asMillis (t : Timestamp) : t.asMillis.toNat = min (t.total / 1000000) (UInt64.size - 1) := by
  simp only [asMillis, total, nanosPerSecond, UInt64.size, UInt64.toNat_ofNat']
  omega

/-- A sum is not earlier, whatever the reading: nanoseconds that make up a second are carried into the seconds. -/
theorem le_of_add? {s : Timestamp} (h : t.add? d = some s) : t.le s := by
  obtain ⟨e, he, hs⟩ := Option.bind_eq_some_iff.mp h
  obtain rfl := Option.some.inj hs
  have htotal := total_of_sinceEpoch? he
  have hsum : t.total ≤ (ofDuration (e.add d)).total := by
    rw [total_ofDuration, Duration.total_add, ← htotal]
    exact Nat.le_min.mpr ⟨Nat.le_add_right _ _, e.total_le_max⟩
  have hnormal := normal_ofDuration (e.add d)
  rw [le_iff]
  simp only [Normal, total, nanosPerSecond] at hsum hnormal
  omega

/-- A normal reading is got back by adding what has passed since an earlier one. -/
theorem Normal.add?_durationSince? (ha : a.Normal) (hb : b.Normal) (h : a.le b) :
    (b.durationSince? a).bind a.add? = some b := by
  obtain ⟨d, hd, hdtotal⟩ := ha.durationSince? hb
  obtain ⟨s, hs, hsnormal, hstotal⟩ := ha.add? d
  have hle := (le_iff_total_le ha hb).mp h
  rw [hd, Option.bind_some, hs, Option.some.injEq]
  refine eq_of_total_eq hsnormal hb ?_
  rw [hstotal, hdtotal, Nat.add_sub_cancel' hle]
  exact Nat.min_eq_left hb.total_le

end

end Timestamp

/-- A preamble is valid at both of its ends, whatever the clock shows. -/
theorem Preamble.isValidAt_startingAt (version : Version) (now : Timestamp) (validity : Duration) :
    let p := startingAt version now validity
    p.isValidAt p.notBefore ∧ p.isValidAt p.notAfter := by
  intro p
  have hends : p.notBefore.le p.notAfter := by
    show now.le ((now.add? validity).getD now)
    cases h : now.add? validity with
    | none => exact now.le_refl
    | some s => exact Timestamp.le_of_add? h
  simp only [isValidAt, Timestamp.le_refl, hends, Bool.and_self, and_self]

namespace Timestamp

/-- **Arithmetic of readings is exact and saturates.** Of normal readings a sum is normal and the exact one, up to the
longest span since the epoch; a difference is the exact one, from zero on; what has passed since an earlier reading
leads from there to the later one; a sum is not earlier; the order of the fields is that of time, and milliseconds
follow it. A preamble is valid at both of its ends. Milliseconds are read off the reading that is made from them. Sums
and differences of any readings are undefined exactly if the seconds of one of them, with those in its nanoseconds, do
not fit. -/
theorem arithmetic_exact :
    (∀ a b : Timestamp, a.Normal → b.Normal →
      (∀ d : Duration, ∃ s, a.add? d = some s ∧ s.Normal ∧ s.total = min (a.total + d.total) Duration.max.total ∧
        a.le s) ∧
      (∃ d, b.durationSince? a = some d ∧ (d.total : Int) = max 0 ((b.total : Int) - a.total)) ∧
      (a.le b → (b.durationSince? a).bind a.add? = some b) ∧
      (a.le b ↔ a.total ≤ b.total) ∧ a.compare b = Ord.compare a.total b.total ∧
      (a.le b → a.asMillis ≤ b.asMillis)) ∧
    (∀ (version : Version) (now : Timestamp) (validity : Duration),
      let p := Preamble.startingAt version now validity
      p.isValidAt p.notBefore ∧ p.isValidAt p.notAfter) ∧
    (∀ m : UInt64, (ofMillis m).asMillis = m) ∧
    ∀ a b : Timestamp, let passes (t : Timestamp) := UInt64.size ≤ t.seconds.toNat + t.nanos.toNat / nanosPerSecond
      (∀ d : Duration, a.add? d = none ↔ passes a) ∧ (b.durationSince? a = none ↔ passes b ∨ passes a) := by
  refine ⟨fun a b ha hb => ⟨fun d => ?_, ?_, ha.add?_durationSince? hb, le_iff_total_le ha hb, compare_eq ha hb,
    fun h => ?_⟩, Preamble.isValidAt_startingAt, asMillis_ofMillis, fun a b => ⟨fun d => ?_, ?_⟩⟩
  · obtain ⟨s, hs, hnormal, htotal⟩ := ha.add? d
    exact ⟨s, hs, hnormal, htotal, le_of_add? hs⟩
  · obtain ⟨d, hd, htotal⟩ := ha.durationSince? hb
    exact ⟨d, hd, by omega⟩
  · have hle := (le_iff_total_le ha hb).mp h
    rw [UInt64.le_iff_toNat_le, toNat_asMillis, toNat_asMillis]
    omega
  · rw [add?_eq_none_iff, sinceEpoch?_eq_none_iff]
  · rw [durationSince?_eq_none_iff, sinceEpoch?_eq_none_iff, sinceEpoch?_eq_none_iff]

/-- Two readings with a carry between them, the last reading of all, and one whose nanoseconds do not fit behind it. -/
theorem arithmetic_exact_carried :
    let a : Timestamp := ⟨100, 900000000⟩
    let b : Timestamp := ⟨101, 100000000⟩
    let last : Timestamp := ⟨18446744073709551615, 999999999⟩
    let passed : Timestamp := ⟨18446744073709551615, 1000000000⟩
    let d : Duration := .clamp 200000000
    a.Normal ∧ b.Normal ∧ last.Normal ∧ a.le b ∧ a.add? d = some b ∧ (b.durationSince? a).bind a.add? = some b ∧
      (∃ s, last.add? d = some s ∧ s.total = Duration.max.total) ∧
      (∃ e, a.durationSince? b = some e ∧ e.total = 0) ∧ a.asMillis ≤ b.asMillis ∧
      passed.add? d = none ∧ a.durationSince? passed = none := by
  intro a b last passed d
  have ha : a.Normal := by decide
  have hb : b.Normal := by decide
  have hlast : last.Normal := by decide
  have hle : a.le b := by decide
  obtain ⟨hnormal, -, -, hnone⟩ := arithmetic_exact
  obtain ⟨-, -, hback, -, -, hmillis⟩ := hnormal a b ha hb
  obtain ⟨e, he, hezero⟩ := (hnormal b a hb ha).2.1
  obtain ⟨s, hs, -, hstotal, -⟩ := (hnormal last last hlast hlast).1 d
  refine ⟨ha, hb, hlast, hle, by decide, hback hle, ⟨s, hs, ?_⟩, ⟨e, he, ?_⟩, hmillis hle, ?_, ?_⟩
  · rw [hstotal]
    decide
  · have hmax : max 0 ((a.total : Int) - b.total) = 0 := by decide
    omega
  · exact ((hnone passed a).1 d).mpr (by decide)
  · exact (hnone passed a).2.mpr (Or.inr (by decide))

end Timestamp

end RunLedger
