import Mathlib.Tactic.Ring
import ModelRegistry.Number.Binary

/-!
# ModelRegistry.Proofs.Number.Rounding

How large a rounded number can be. `Below num den e` says that `num / den` is less
than `2^e`, with whole numbers only. The place of the leading bit is the last one
that a ratio is not below, so a ratio below `2^k` is rounded to a word of an
exponent field of at most `k + 1022`, or to the first word after those. Integers
that are not beyond all bounds are therefore finite numbers.
-/

namespace ModelRegistry.Number

/-! ## Powers of two -/

/-- The ratio is below this power of two. -/
def Below (num den : Nat) (e : Int) : Prop :=
  num * 2 ^ (-e).toNat < den * 2 ^ e.toNat

theorem below_natCast_iff (num den k : Nat) : Below num den k ↔ num < den * 2 ^ k := by
  simp [Below]

theorem ratioOfParts_eq (significand : Nat) (e : Int) :
    Format.ratioOfParts significand e = (significand * 2 ^ e.toNat, 2 ^ (-e).toNat) := by
  unfold Format.ratioOfParts
  split
  · next h =>
      have hneg : (-e).toNat = 0 := by omega
      rw [hneg]
      rfl
  · next h =>
      have hpos : e.toNat = 0 := by omega
      rw [hpos, Nat.pow_zero, Nat.mul_one]
      rfl

theorem ratioOfParts_one (e : Int) : Format.ratioOfParts 1 e = (2 ^ e.toNat, 2 ^ (-e).toNat) := by
  rw [ratioOfParts_eq, Nat.one_mul]

theorem Below.mono {num den : Nat} {e e' : Int} (h : Below num den e) (hle : e ≤ e') :
    Below num den e' := by
  have hnum : num * 2 ^ (-e').toNat ≤ num * 2 ^ (-e).toNat :=
    Nat.mul_le_mul_left num (Nat.pow_le_pow_right (by decide) (by omega))
  have hden : den * 2 ^ e.toNat ≤ den * 2 ^ e'.toNat :=
    Nat.mul_le_mul_left den (Nat.pow_le_pow_right (by decide) (by omega))
  exact lt_of_le_of_lt hnum (lt_of_lt_of_le h hden)

/-- Moving a power of two from one side to the other. -/
theorem below_add_iff (num den k : Nat) (e : Int) :
    Below num den (e + k) ↔ num * 2 ^ (-e).toNat < 2 ^ k * (den * 2 ^ e.toNat) := by
  have hexponents : (e + k).toNat + (-e).toNat = k + e.toNat + (-(e + k)).toNat := by omega
  have hnum : num * 2 ^ (-(e + k)).toNat * 2 ^ (-e).toNat =
      num * 2 ^ (-e).toNat * 2 ^ (-(e + k)).toNat := by ring
  have hden : den * 2 ^ (e + k).toNat * 2 ^ (-e).toNat =
      2 ^ k * (den * 2 ^ e.toNat) * 2 ^ (-(e + k)).toNat := by
    calc den * 2 ^ (e + k).toNat * 2 ^ (-e).toNat
        = den * 2 ^ (k + e.toNat + (-(e + k)).toNat) := by rw [← hexponents]; ring
      _ = 2 ^ k * (den * 2 ^ e.toNat) * 2 ^ (-(e + k)).toNat := by ring
  rw [Below, ← Nat.mul_lt_mul_right (Nat.two_pow_pos (-e).toNat), hnum, hden,
    Nat.mul_lt_mul_right (Nat.two_pow_pos _)]

/-! ## The leading bit -/

/-- A numerator of `a + 1` bits and a denominator of `b + 1` bits at least. -/
theorem below_of_bits {num den a b : Nat} (hnum : num < 2 ^ (a + 1)) (hden : 2 ^ b ≤ den) :
    Below num den (a - b + 1) := by
  have hexponents : a + 1 + (-((a : Int) - b + 1)).toNat = b + ((a : Int) - b + 1).toNat := by
    omega
  calc num * 2 ^ (-((a : Int) - b + 1)).toNat
      < 2 ^ (a + 1) * 2 ^ (-((a : Int) - b + 1)).toNat :=
        Nat.mul_lt_mul_of_pos_right hnum (Nat.two_pow_pos _)
    _ = 2 ^ b * 2 ^ ((a : Int) - b + 1).toNat := by rw [← pow_add, ← pow_add, hexponents]
    _ ≤ den * 2 ^ ((a : Int) - b + 1).toNat := Nat.mul_le_mul_right _ hden

/-- A numerator of `a + 1` bits at least and a denominator of `b + 1` bits. -/
theorem not_below_of_bits {num den a b : Nat} (hnum : 2 ^ a ≤ num) (hden : den < 2 ^ (b + 1)) :
    ¬ Below num den (a - b - 1) := by
  have hexponents : b + 1 + ((a : Int) - b - 1).toNat = a + (-((a : Int) - b - 1)).toNat := by
    omega
  refine Nat.not_lt.mpr (Nat.le_of_lt ?_)
  calc den * 2 ^ ((a : Int) - b - 1).toNat
      < 2 ^ (b + 1) * 2 ^ ((a : Int) - b - 1).toNat :=
        Nat.mul_lt_mul_of_pos_right hden (Nat.two_pow_pos _)
    _ = 2 ^ a * 2 ^ (-((a : Int) - b - 1)).toNat := by rw [← pow_add, ← pow_add, hexponents]
    _ ≤ num * 2 ^ (-((a : Int) - b - 1)).toNat := Nat.mul_le_mul_right _ hnum

/-- The leading bit of a ratio is the last power of two that it is not below. -/
theorem leadingBit_spec {num den : Nat} (hnum : num ≠ 0) (hden : den ≠ 0) :
    ¬ Below num den (Format.leadingBit num den) ∧
      Below num den (Format.leadingBit num den + 1) := by
  have habove := below_of_bits (Nat.lt_log2_self (n := num)) (Nat.log2_self_le hden)
  have hnot := not_below_of_bits (Nat.log2_self_le hnum) (Nat.lt_log2_self (n := den))
  simp only [Format.leadingBit, ratioOfParts_one]
  split
  · next h =>
      refine ⟨hnot, ?_⟩
      rw [Int.sub_add_cancel]
      exact h
  · next h => exact ⟨h, habove⟩

theorem leadingBit_lt {num den k : Nat} (hnum : num ≠ 0) (hden : den ≠ 0)
    (h : Below num den k) : Format.leadingBit num den < k := by
  by_contra hle
  exact (leadingBit_spec hnum hden).1 (h.mono (by omega))

/-! ## Rounding -/

theorem nearestEven_le (num den : Nat) : Format.nearestEven num den ≤ num / den + 1 := by
  simp only [Format.nearestEven]
  split <;> omega

/-- A ratio below `2^k` is rounded to a word up to that of `2^k`. -/
theorem roundRatio_le {num den k : Nat} (hden : den ≠ 0) (h : Below num den k) :
    Format.double.roundRatio num den ≤ (k + 1023) * 2 ^ 52 := by
  have hmin : Format.double.minExponent = -1074 := rfl
  have hbits : Format.double.fractionBits = 52 := rfl
  have hpow : ∀ n, Nat.pow 2 n = 2 ^ n := fun _ => rfl
  simp only [Format.roundRatio, ratioOfParts_one, hpow, hmin, hbits]
  split
  · exact Nat.zero_le _
  · next hnum =>
      refine Nat.le_trans (Nat.min_le_right _ _) ?_
      have hlead := leadingBit_lt hnum hden h
      generalize hexponent : max (-1074 : Int) (Format.leadingBit num den - (52 : Nat)) = e
      have hbelow : Below num den (e + 53) := (leadingBit_spec hnum hden).2.mono (by omega)
      have hquotient : num * 2 ^ (-e).toNat / (den * 2 ^ e.toNat) < 2 ^ 53 := by
        refine Nat.div_lt_of_lt_mul ?_
        rw [Nat.mul_comm (den * _)]
        exact (below_add_iff num den 53 e).mp hbelow
      have hsignificand := nearestEven_le (num * 2 ^ (-e).toNat) (den * 2 ^ e.toNat)
      have hfield : (e - -1074).toNat ≤ k + 1021 := by omega
      calc (e - -1074).toNat * 2 ^ 52 + _
          ≤ (k + 1021) * 2 ^ 52 + 2 ^ 53 :=
            Nat.add_le_add (Nat.mul_le_mul_right _ hfield)
              (Nat.le_trans hsignificand hquotient)
        _ = (k + 1023) * 2 ^ 52 := by ring

theorem le_nearestEven (num den : Nat) : num / den ≤ Format.nearestEven num den := by
  simp only [Format.nearestEven]
  split <;> omega

/-- A ratio that is not below `2^k` is rounded to no word before that of `2^k`. -/
theorem le_roundRatio {num den k : Nat} (hk : k ≤ 1023) (hnum : num ≠ 0) (hden : den ≠ 0)
    (h : ¬ Below num den k) : (k + 1023) * 2 ^ 52 ≤ Format.double.roundRatio num den := by
  have hmin : Format.double.minExponent = -1074 := rfl
  have hbits : Format.double.fractionBits = 52 := rfl
  have hinfinity : Format.double.infinityWord = 2047 * 2 ^ 52 := rfl
  have hpow : ∀ n, Nat.pow 2 n = 2 ^ n := fun _ => rfl
  simp only [Format.roundRatio, ratioOfParts_one, hpow, hmin, hbits, hinfinity, if_neg hnum]
  obtain ⟨hnot, habove⟩ := leadingBit_spec hnum hden
  have hlead : (k : Int) ≤ Format.leadingBit num den := by
    by_contra hlt
    exact h (habove.mono (by omega))
  generalize hexponent : max (-1074 : Int) (Format.leadingBit num den - (52 : Nat)) = e
  have hlow : ¬ Below num den (e + (52 : Nat)) := fun hbelow => hnot (hbelow.mono (by omega))
  rw [below_add_iff, Nat.not_lt] at hlow
  have hquotient : 2 ^ 52 ≤ num * 2 ^ (-e).toNat / (den * 2 ^ e.toNat) :=
    (Nat.le_div_iff_mul_le (Nat.mul_pos (Nat.pos_of_ne_zero hden) (Nat.two_pow_pos _))).mpr hlow
  have hsignificand := le_nearestEven (num * 2 ^ (-e).toNat) (den * 2 ^ e.toNat)
  have hfield : k + 1022 ≤ (e - -1074).toNat := by omega
  refine Nat.le_min.mpr ⟨Nat.mul_le_mul_right _ (by omega), ?_⟩
  calc (k + 1023) * 2 ^ 52
      = (k + 1022) * 2 ^ 52 + 2 ^ 52 := by ring
    _ ≤ (e - -1074).toNat * 2 ^ 52 + _ :=
        Nat.add_le_add (Nat.mul_le_mul_right _ hfield) (Nat.le_trans hquotient hsignificand)

/-! ## The numbers of words -/

theorem parts_lt {word k : Nat} (h : word < (k + 1023) * 2 ^ 52) :
    (Format.double.parts word).1 < 2 ^ 53 ∧ (Format.double.parts word).2 + 53 ≤ k := by
  have hmin : Format.double.minExponent = -1074 := rfl
  have hpow : Nat.pow 2 Format.double.fractionBits = 2 ^ 52 := rfl
  have hmagnitude : Format.double.magnitude word ≤ word := Nat.mod_le _ _
  have hfield : Format.double.magnitude word / 2 ^ 52 < k + 1023 := by omega
  have hfraction : Format.double.magnitude word % 2 ^ 52 < 2 ^ 52 := Nat.mod_lt _ (by decide)
  simp only [Format.parts, hmin, hpow]
  split
  · exact ⟨by omega, by omega⟩
  · exact ⟨by omega, by omega⟩

theorem le_parts {word k : Nat} (hword : word < 2 ^ 63) (h : (k + 1023) * 2 ^ 52 ≤ word) :
    2 ^ 52 ≤ (Format.double.parts word).1 ∧ k ≤ (Format.double.parts word).2 + 52 := by
  have hfield : k + 1023 ≤ word / 2 ^ 52 := (Nat.le_div_iff_mul_le (Nat.two_pow_pos 52)).mpr h
  have hmin : Format.double.minExponent = -1074 := rfl
  have hpow : Nat.pow 2 Format.double.fractionBits = 2 ^ 52 := rfl
  have hmagnitude : Format.double.magnitude word = word := Nat.mod_eq_of_lt hword
  simp only [Format.parts, hmin, hpow, hmagnitude]
  rw [if_neg (by omega)]
  exact ⟨Nat.le_add_right _ _, by omega⟩

theorem ratio_eq (f : Format) (word : Nat) :
    f.ratio word =
      ((f.parts word).1 * 2 ^ (f.parts word).2.toNat, 2 ^ (-(f.parts word).2).toNat) :=
  ratioOfParts_eq _ _

/-- A word before that of `2^k` is a number below `2^k`. -/
theorem below_ratio {word k : Nat} (h : word < (k + 1023) * 2 ^ 52) :
    Below (Format.double.ratio word).1 (Format.double.ratio word).2 k := by
  obtain ⟨hsignificand, hexponent⟩ := parts_lt h
  rw [ratio_eq, below_natCast_iff]
  generalize (Format.double.parts word).2 = e at hexponent
  calc (Format.double.parts word).1 * 2 ^ e.toNat
      < 2 ^ 53 * 2 ^ e.toNat := Nat.mul_lt_mul_of_pos_right hsignificand (Nat.two_pow_pos _)
    _ = 2 ^ (53 + e.toNat) := (pow_add 2 53 _).symm
    _ ≤ 2 ^ ((-e).toNat + k) := Nat.pow_le_pow_right (by decide) (by omega)
    _ = 2 ^ (-e).toNat * 2 ^ k := pow_add 2 _ k

/-- A word from that of `2^k` on is no number below `2^k`. -/
theorem not_below_ratio {word k : Nat} (hword : word < 2 ^ 63) (h : (k + 1023) * 2 ^ 52 ≤ word) :
    ¬ Below (Format.double.ratio word).1 (Format.double.ratio word).2 k := by
  obtain ⟨hsignificand, hexponent⟩ := le_parts hword h
  rw [ratio_eq, below_natCast_iff, Nat.not_lt]
  generalize (Format.double.parts word).2 = e at hexponent
  calc 2 ^ (-e).toNat * 2 ^ k
      = 2 ^ ((-e).toNat + k) := (pow_add 2 _ k).symm
    _ ≤ 2 ^ (52 + e.toNat) := Nat.pow_le_pow_right (by decide) (by omega)
    _ = 2 ^ 52 * 2 ^ e.toNat := pow_add 2 52 _
    _ ≤ (Format.double.parts word).1 * 2 ^ e.toNat := Nat.mul_le_mul_right _ hsignificand

theorem ratio_den_pos (f : Format) (word : Nat) : 0 < (f.ratio word).2 := by
  rw [ratio_eq]
  exact Nat.two_pow_pos _

/-! ## Finite numbers -/

namespace Binary64

theorem magnitude_ofMagnitude (negative : Bool) {word : Nat} (h : word < 2 ^ 63) :
    (ofMagnitude negative word).magnitude = word := by
  have hsign : Format.double.signWord = 2 ^ 63 := rfl
  have hbits : ∀ n : Nat, n.toUInt64.toNat = n % 2 ^ 64 := fun _ => rfl
  rw [magnitude, Format.magnitude, ofMagnitude, hsign, hbits]
  split <;> omega

theorem isFinite_ofMagnitude (negative : Bool) {word : Nat}
    (h : word < Format.double.infinityWord) : (ofMagnitude negative word).isFinite := by
  have hinfinity : Format.double.infinityWord < 2 ^ 63 := by decide
  rw [isFinite, magnitude_ofMagnitude negative (Nat.lt_trans h hinfinity)]
  exact decide_eq_true h

/-- An integer that is not beyond the range of floats is a finite number. -/
theorem isFinite_ofInt {n : Int} {k : Nat} (hk : k ≤ 1023) (h : n.natAbs < 2 ^ k) :
    (ofInt n).isFinite := by
  have hbelow : Below n.natAbs 1 k := by simpa [Below] using h
  have hinfinity : Format.double.infinityWord = 2047 * 2 ^ 52 := rfl
  refine isFinite_ofMagnitude _ ?_
  calc Format.double.roundRatio n.natAbs 1
      ≤ (k + 1023) * 2 ^ 52 := roundRatio_le Nat.one_ne_zero hbelow
    _ ≤ 2046 * 2 ^ 52 := Nat.mul_le_mul_right _ (by omega)
    _ < Format.double.infinityWord := by rw [hinfinity]; decide

end Binary64

end ModelRegistry.Number
