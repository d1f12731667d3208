import Mathlib.Algebra.Order.Field.Rat
import Mathlib.Tactic.Positivity
import ModelRegistry.Proofs.Number.Rounding

/-!
# ModelRegistry.Proofs.Number.Comparison

Words compared as the numbers that they are. A finite word is a whole multiple of the
smallest positive number of its format (`Format.units`), and words without their signs
are ordered as these multiples are (`units_lt_units`). A comparison of words with the
word of zero or of one therefore says what holds of the rational number that a word
stands for.
-/

namespace ModelRegistry.Number

namespace Format

variable {f : Format}

/-! ## Units -/

/-- The exponent field of a word. -/
def field (f : Format) (word : Nat) : Nat := f.magnitude word / 2 ^ f.fractionBits

/-- The fraction of a word. -/
def fraction (f : Format) (word : Nat) : Nat := f.magnitude word % 2 ^ f.fractionBits

/-- The magnitude of a finite word, counted in the smallest positive numbers of the format. -/
def units (f : Format) (word : Nat) : Nat :=
  (f.parts word).1 * 2 ^ ((f.parts word).2 - f.minExponent).toNat

theorem magnitude_eq (word : Nat) :
    2 ^ f.fractionBits * f.field word + f.fraction word = f.magnitude word :=
  Nat.div_add_mod _ _

theorem fraction_lt (word : Nat) : f.fraction word < 2 ^ f.fractionBits :=
  Nat.mod_lt _ (Nat.two_pow_pos _)

theorem parts_eq (word : Nat) :
    f.parts word =
      if f.field word = 0 then (f.fraction word, f.minExponent)
      else (2 ^ f.fractionBits + f.fraction word, f.minExponent + (f.field word - 1 : Nat)) :=
  rfl

theorem units_of_field_eq_zero {word : Nat} (h : f.field word = 0) :
    f.units word = f.fraction word := by
  rw [units, parts_eq, if_pos h, Int.sub_self, Int.toNat_zero, Nat.pow_zero, Nat.mul_one]

theorem units_of_field_ne_zero {word : Nat} (h : f.field word ≠ 0) :
    f.units word = (2 ^ f.fractionBits + f.fraction word) * 2 ^ (f.field word - 1) := by
  have hexponent :
      (f.minExponent + (f.field word - 1 : Nat) - f.minExponent).toNat = f.field word - 1 := by
    omega
  rw [units, parts_eq, if_neg h, hexponent]

/-- The numbers of an exponent field end where those of the next begin. -/
theorem units_lt (word : Nat) : f.units word < 2 ^ f.fractionBits * 2 ^ f.field word := by
  have hfraction := fraction_lt (f := f) word
  by_cases h : f.field word = 0
  · rw [units_of_field_eq_zero h, h, Nat.pow_zero, Nat.mul_one]
    exact hfraction
  · have hpow : 2 ^ f.field word = 2 * 2 ^ (f.field word - 1) := by
      rw [← Nat.pow_succ', Nat.succ_eq_add_one, Nat.sub_add_cancel (Nat.pos_of_ne_zero h)]
    rw [units_of_field_ne_zero h, hpow, ← Nat.mul_assoc]
    exact Nat.mul_lt_mul_of_pos_right (by omega) (Nat.two_pow_pos _)

/-- **Words are ordered as numbers**: of two words without signs the smaller is the smaller
number. -/
theorem units_lt_units {v w : Nat} (h : f.magnitude v < f.magnitude w) :
    f.units v < f.units w := by
  have hv := magnitude_eq (f := f) v
  have hw := magnitude_eq (f := f) w
  have hfield : f.field v ≤ f.field w := Nat.div_le_div_right (Nat.le_of_lt h)
  rcases Nat.lt_or_eq_of_le hfield with hlt | heq
  · have hne : f.field w ≠ 0 := by omega
    calc f.units v
        < 2 ^ f.fractionBits * 2 ^ f.field v := units_lt v
      _ ≤ (2 ^ f.fractionBits + f.fraction w) * 2 ^ (f.field w - 1) :=
          Nat.mul_le_mul (by omega) (Nat.pow_le_pow_right (by decide) (by omega))
      _ = f.units w := (units_of_field_ne_zero hne).symm
  · have hfraction : f.fraction v < f.fraction w := by
      rw [heq] at hv
      omega
    by_cases hzero : f.field w = 0
    · rw [units_of_field_eq_zero hzero, units_of_field_eq_zero (heq.trans hzero)]
      exact hfraction
    · have hzero' : f.field v ≠ 0 := by rwa [heq]
      rw [units_of_field_ne_zero hzero, units_of_field_ne_zero hzero', heq]
      exact Nat.mul_lt_mul_of_pos_right (by omega) (Nat.two_pow_pos _)

theorem units_congr {v w : Nat} (h : f.magnitude v = f.magnitude w) : f.units v = f.units w := by
  simp only [units, parts, h]

theorem units_le_units_iff {v w : Nat} :
    f.units v ≤ f.units w ↔ f.magnitude v ≤ f.magnitude w := by
  constructor
  · intro h
    by_contra hlt
    exact Nat.not_lt.mpr h (units_lt_units (Nat.not_le.mp hlt))
  · intro h
    rcases Nat.lt_or_eq_of_le h with hlt | heq
    · exact Nat.le_of_lt (units_lt_units hlt)
    · exact Nat.le_of_eq (units_congr heq)

/-! ## Numbers -/

/-- The magnitude of a finite word. -/
def value (f : Format) (word : Nat) : ℚ := (f.ratio word).1 / (f.ratio word).2

theorem minExponent_le (word : Nat) : f.minExponent ≤ (f.parts word).2 := by
  rw [parts_eq]
  split
  · exact Int.le_refl _
  · exact Int.le_add_of_nonneg_right (Int.natCast_nonneg _)

theorem minExponent_nonpos : f.minExponent ≤ 0 := by
  rw [minExponent]
  omega

/-- The ratio of a word and its units are one number. -/
theorem ratio_mul (word : Nat) :
    (f.ratio word).1 * 2 ^ (-f.minExponent).toNat = f.units word * (f.ratio word).2 := by
  have hle := minExponent_le (f := f) word
  have hnonpos := minExponent_nonpos (f := f)
  rw [ratio_eq, units]
  generalize (f.parts word).2 = e at hle
  have hexponents : e.toNat + (-f.minExponent).toNat = (e - f.minExponent).toNat + (-e).toNat := by
    omega
  rw [Nat.mul_assoc, Nat.mul_assoc, ← pow_add, ← pow_add, hexponents]

theorem value_eq (word : Nat) : f.value word = f.units word / 2 ^ (-f.minExponent).toNat := by
  have hden : ((f.ratio word).2 : ℚ) ≠ 0 := by
    have hpos := ratio_den_pos f word
    positivity
  have hpow : (2 ^ (-f.minExponent).toNat : ℚ) ≠ 0 := by positivity
  rw [value, div_eq_div_iff hden hpow]
  exact_mod_cast ratio_mul word

end Format

/-! ## Single precision -/

namespace Binary32

/-- The number as a rational, if it is finite. -/
def toRat? (x : Binary32) : Option ℚ :=
  if x.isFinite then
    some (if x.isNegative then -Format.single.value x.bits.toNat
      else Format.single.value x.bits.toNat)
  else none

theorem units_one : Format.single.units oneWord = 2 ^ (-Format.single.minExponent).toNat := by
  decide +kernel

theorem magnitude_one : Format.single.magnitude oneWord = oneWord := by decide +kernel

theorem units_pos_iff (x : Binary32) :
    0 < Format.single.units x.bits.toNat ↔ x.magnitude ≠ 0 := by
  have hzero : Format.single.units 0 = 0 := by decide +kernel
  have hmagnitude : Format.single.magnitude 0 = 0 := by decide +kernel
  rw [← not_iff_not, Nat.not_lt, ← hzero, Format.units_le_units_iff, hmagnitude, not_not]
  exact Nat.le_zero

theorem value_pos_iff (x : Binary32) :
    0 < Format.single.value x.bits.toNat ↔ x.magnitude ≠ 0 := by
  rw [Format.value_eq, div_pos_iff_of_pos_right (by positivity), Nat.cast_pos, units_pos_iff]

theorem value_le_one_iff (x : Binary32) :
    Format.single.value x.bits.toNat ≤ 1 ↔ x.magnitude ≤ oneWord := by
  have hunits : Format.single.units x.bits.toNat ≤ 2 ^ (-Format.single.minExponent).toNat ↔
      x.magnitude ≤ oneWord := by
    rw [← units_one, Format.units_le_units_iff, magnitude_one, magnitude]
  rw [Format.value_eq, div_le_one (by positivity), ← hunits]
  exact_mod_cast Iff.rfl

theorem isNaN_of_isFinite {x : Binary32} (h : x.isFinite = true) : x.isNaN = false := by
  have hlt : x.magnitude < Format.single.infinityWord := of_decide_eq_true h
  exact decide_eq_false (Nat.not_lt.mpr (Nat.le_of_lt hlt))

theorem isFinite_of_le_one {x : Binary32} (h : x.magnitude ≤ oneWord) : x.isFinite = true := by
  have hone : oneWord < Format.single.infinityWord := by decide +kernel
  exact decide_eq_true (Nat.lt_of_le_of_lt h hone)

/-- A positive number has no sign. -/
theorem toRat?_pos {x : Binary32} {q : ℚ} (h : x.toRat? = some q) (hq : 0 < q) :
    x.isFinite = true ∧ x.isNegative = false ∧ q = Format.single.value x.bits.toNat := by
  rw [toRat?] at h
  split at h
  · next hfinite =>
    cases hsign : x.isNegative with
    | true =>
        have hvalue : q = -Format.single.value x.bits.toNat := by simpa [hsign] using h.symm
        have hnonneg : 0 ≤ Format.single.value x.bits.toNat := by
          rw [Format.value_eq]
          positivity
        rw [hvalue] at hq
        exact absurd (neg_pos.mp hq) (not_lt.mpr hnonneg)
    | false =>
        have hvalue : q = Format.single.value x.bits.toNat := by simpa [hsign] using h.symm
        exact ⟨hfinite, rfl, hvalue⟩
  · contradiction

/-- The comparisons with zero and one hold of the finite numbers above zero and up to one, and
of nothing else. -/
theorem isPositive_and_isAtMostOne_iff (x : Binary32) :
    x.isPositive = true ∧ x.isAtMostOne = true ↔ ∃ q, x.toRat? = some q ∧ 0 < q ∧ q ≤ 1 := by
  constructor
  · intro h
    obtain ⟨hpositive, hone⟩ := h
    obtain ⟨⟨hsign, hnan⟩, hzero⟩ : (x.isNegative = false ∧ x.isNaN = false) ∧
        x.magnitude ≠ 0 := by
      simpa [isPositive, isZero] using hpositive
    have hle : x.magnitude ≤ oneWord := by simpa [isAtMostOne, hsign, hnan] using hone
    refine ⟨Format.single.value x.bits.toNat, ?_, (value_pos_iff x).mpr hzero,
      (value_le_one_iff x).mpr hle⟩
    simp [toRat?, isFinite_of_le_one hle, hsign]
  · intro h
    obtain ⟨q, hq, hpos, hle⟩ := h
    obtain ⟨hfinite, hsign, rfl⟩ := toRat?_pos hq hpos
    have hnan := isNaN_of_isFinite hfinite
    have hzero : x.magnitude ≠ 0 := (value_pos_iff x).mp hpos
    have hone : x.magnitude ≤ oneWord := (value_le_one_iff x).mp hle
    simp [isPositive, isAtMostOne, isZero, hsign, hnan, hzero, hone]

end Binary32

end ModelRegistry.Number
