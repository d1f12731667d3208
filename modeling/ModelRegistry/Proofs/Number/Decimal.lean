import ModelRegistry.Number.Decimal
import ModelRegistry.Proofs.Number.Rounding

/-!
# ModelRegistry.Proofs.Number.Decimal

The rule of JSON text gives finite numbers only. Digits that fit 64 bits are rounded
to a number of at most `2^64`. A power of ten that multiplies it is checked after
the fact; one that divides it is at least two, but for the last step, so that the
quotients stay where they are.
-/

namespace ModelRegistry.Number

/-- A number below `2^(k + j)` divided by one that is not below `2^j`. -/
theorem divWords_le {a b k j : Nat}
    (ha : Below (Format.double.ratio a).1 (Format.double.ratio a).2 (k + j : Nat))
    (hb : ¬ Below (Format.double.ratio b).1 (Format.double.ratio b).2 j) :
    divWords a b ≤ (k + 1023) * 2 ^ 52 := by
  have hden := ratio_den_pos .double a
  have hden' := ratio_den_pos .double b
  rw [divWords]
  rw [below_natCast_iff] at ha hb
  generalize Format.double.ratio a = x at ha hden
  generalize Format.double.ratio b = y at hb hden'
  obtain ⟨n, d⟩ := x
  obtain ⟨m, e⟩ := y
  rw [Nat.not_lt] at hb
  have hm : 0 < m := Nat.lt_of_lt_of_le (Nat.mul_pos hden' (Nat.two_pow_pos j)) hb
  refine roundRatio_le (Nat.ne_of_gt (Nat.mul_pos hden hm)) ?_
  rw [below_natCast_iff]
  calc n * e
      < d * 2 ^ (k + j) * e := Nat.mul_lt_mul_of_pos_right ha hden'
    _ = d * 2 ^ k * (e * 2 ^ j) := by ring
    _ ≤ d * 2 ^ k * m := Nat.mul_le_mul_left _ hb
    _ = d * m * 2 ^ k := by ring

theorem pow10Word_lt (k : Nat) : pow10Word k < 2 ^ 63 := by
  have hinfinity : Format.double.infinityWord < 2 ^ 63 := by decide
  refine Nat.lt_of_le_of_lt ?_ hinfinity
  rw [pow10Word, Format.roundRatio]
  split
  · exact Nat.zero_le _
  · exact Nat.min_le_left _ _

theorem not_below_pow10Word {j k : Nat} (hj : j ≤ 1023) (h : 2 ^ j ≤ 10 ^ k) :
    ¬ Below (Format.double.ratio (pow10Word k)).1 (Format.double.ratio (pow10Word k)).2 j := by
  refine not_below_ratio (pow10Word_lt k) ?_
  refine le_roundRatio hj (Nat.ne_of_gt (Nat.pow_pos (by decide))) Nat.one_ne_zero ?_
  rw [below_natCast_iff, Nat.one_mul, Nat.not_lt]
  exact h

/-- Dividing by powers of ten keeps numbers up to `2^64` below `2^66`. -/
theorem scaleDown_le {word k : Nat} (h : word ≤ 1087 * 2 ^ 52) :
    scaleDown word k ≤ 1088 * 2 ^ 52 := by
  induction k using Nat.strongRecOn generalizing word with
  | ind k ih =>
      have hbelow : Below (Format.double.ratio word).1 (Format.double.ratio word).2 65 :=
        below_ratio (k := 65) (by omega)
      rw [scaleDown]
      split
      · exact Nat.zero_le _
      · split
        · exact divWords_le (k := 65) (j := 0) hbelow
            (not_below_pow10Word (by decide) (Nat.one_le_pow k 10 (by decide)))
        · next hk =>
            have hten : 2 ^ 1 ≤ 10 ^ maxPow10 :=
              Nat.le_trans (by decide) (Nat.pow_le_pow_right (by decide) (by decide : 1 ≤ maxPow10))
            refine ih (k - maxPow10) ?_ ?_
            · have : 0 < maxPow10 := by decide
              omega
            · exact divWords_le (k := 64) (j := 1) hbelow (not_below_pow10Word (by decide) hten)

theorem scaledWord?_lt {significand word : Nat} {exponent : Int}
    (hsignificand : significand < UInt64.size) (h : scaledWord? significand exponent = some word) :
    word < Format.double.infinityWord := by
  have hbelow : Below significand 1 (64 : Nat) := by
    rw [below_natCast_iff, Nat.one_mul]
    exact hsignificand
  have hscaled : 1088 * 2 ^ 52 < Format.double.infinityWord := by decide
  simp only [scaledWord?] at h
  split at h
  · obtain rfl := Option.some.inj h
    exact Nat.lt_of_le_of_lt (scaleDown_le (roundRatio_le Nat.one_ne_zero hbelow)) hscaled
  · split at h
    · obtain ⟨-, h⟩ := Option.ite_none_right_eq_some.mp h
      obtain rfl := Option.some.inj h
      decide
    · obtain ⟨hproduct, h⟩ := Option.ite_none_right_eq_some.mp h
      obtain rfl := Option.some.inj h
      exact hproduct

theorem leadingDigits_lt {start : Nat} (h : start < UInt64.size) (ds : List Char) :
    (leadingDigits start ds).1 < UInt64.size := by
  induction ds generalizing start with
  | nil => exact h
  | cons c rest ih =>
      rw [leadingDigits]
      split
      · next hnext => exact ih hnext
      · exact h

/-- The number of a decimal literal is finite. -/
theorem isFinite_of_scaledDecimal? {negative : Bool} {whole fraction : List Char} {exponent : Int}
    {x : Binary64} (h : scaledDecimal? negative whole fraction exponent = some x) :
    x.isFinite := by
  obtain ⟨word, hword, rfl⟩ := Option.map_eq_some_iff.mp h
  refine Binary64.isFinite_ofMagnitude negative ?_
  split at hword
  · obtain ⟨-, hword⟩ := Option.ite_none_left_eq_some.mp hword
    obtain rfl := Option.some.inj hword
    decide
  · have hhead : (leadingDigits 0 whole).1 < UInt64.size := leadingDigits_lt (by decide) whole
    exact scaledWord?_lt (leadingDigits_lt hhead fraction) hword

end ModelRegistry.Number
