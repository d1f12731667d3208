import ModelRegistry.Number.Decimal
import ModelRegistry.Proofs.Number.Comparison

/-!
# ModelRegistry.Proofs.Number.Widening

From 32 bits to 64 and back. A ratio that a format has a number for (`Format.Fits`) is
rounded to this number (`units_roundRatio`). Whatever fits the 32-bit format fits the
64-bit one, so that widening a number is exact and narrowing it again gives it back
(`toBinary32_toBinary64`). Of what is not a number only the sign survives, which is all
there is to the ones that texts write (`Binary32.Plain`).
-/

namespace ModelRegistry.Number

namespace Format

variable {f : Format} {num den significand : Nat} {exponent : Int}

/-! ## Ratios that are numbers of a format -/

/-- The ratio is `significand · 2^exponent`, a number of the format. -/
structure Fits (f : Format) (num den significand : Nat) (exponent : Int) : Prop where
  den_pos : 0 < den
  eq : num * 2 ^ (-exponent).toNat = significand * (den * 2 ^ exponent.toNat)
  significand_lt : significand < 2 ^ (f.fractionBits + 1)
  minExponent_le : f.minExponent ≤ exponent
  exponent_le : exponent + 3 ≤ f.minExponent + (2 ^ f.exponentBits : Nat)

theorem signWord_eq (f : Format) : f.signWord = 2 ^ f.exponentBits * 2 ^ f.fractionBits := by
  rw [signWord, Nat.mul_comm]
  exact Nat.pow_add 2 _ _

theorem infinityWord_le_signWord (f : Format) : f.infinityWord ≤ f.signWord := by
  rw [signWord_eq, infinityWord]
  exact Nat.mul_le_mul_right _ (Nat.sub_le _ _)

theorem magnitude_of_lt {word : Nat} (h : word < f.infinityWord) : f.magnitude word = word :=
  Nat.mod_eq_of_lt (Nat.lt_of_lt_of_le h (infinityWord_le_signWord f))

/-- A significand behind an exponent field is a word, and this word is the number. -/
theorem units_word (f : Format) (place significand : Nat)
    (hsignificand : significand < 2 ^ (f.fractionBits + 1))
    (hnormal : place = 0 ∨ 2 ^ f.fractionBits ≤ significand)
    (hplace : place + 3 ≤ 2 ^ f.exponentBits) :
    place * 2 ^ f.fractionBits + significand < f.infinityWord ∧
      f.units (place * 2 ^ f.fractionBits + significand) = significand * 2 ^ place := by
  have hpow : 2 ^ (f.fractionBits + 1) = 2 * 2 ^ f.fractionBits := Nat.pow_succ'
  have hinfinity : f.infinityWord = (2 ^ f.exponentBits - 1) * 2 ^ f.fractionBits := rfl
  have hlt : place * 2 ^ f.fractionBits + significand < f.infinityWord := by
    have hle : (place + 2) * 2 ^ f.fractionBits ≤ f.infinityWord := by
      rw [hinfinity]
      exact Nat.mul_le_mul_right _ (by omega)
    rw [Nat.add_mul] at hle
    omega
  have hmagnitude : f.magnitude (place * 2 ^ f.fractionBits + significand) =
      place * 2 ^ f.fractionBits + significand := magnitude_of_lt hlt
  refine ⟨hlt, ?_⟩
  have hpos : 0 < 2 ^ f.fractionBits := Nat.two_pow_pos _
  by_cases hhidden : 2 ^ f.fractionBits ≤ significand
  · have hword : place * 2 ^ f.fractionBits + significand =
        2 ^ f.fractionBits * (place + 1) + (significand - 2 ^ f.fractionBits) := by
      rw [Nat.mul_add, Nat.mul_comm place]
      omega
    have hrest : significand - 2 ^ f.fractionBits < 2 ^ f.fractionBits := by omega
    have hfield : f.field (place * 2 ^ f.fractionBits + significand) = place + 1 := by
      rw [field, hmagnitude, hword, Nat.mul_add_div hpos, Nat.div_eq_of_lt hrest, Nat.add_zero]
    have hfraction : f.fraction (place * 2 ^ f.fractionBits + significand) =
        significand - 2 ^ f.fractionBits := by
      rw [fraction, hmagnitude, hword, Nat.mul_add_mod, Nat.mod_eq_of_lt hrest]
    rw [units_of_field_ne_zero (by omega), hfield, hfraction, Nat.add_sub_cancel' hhidden,
      Nat.add_sub_cancel]
  · obtain rfl : place = 0 := by omega
    have hless : significand < 2 ^ f.fractionBits := by omega
    rw [Nat.zero_mul, Nat.zero_add] at hmagnitude ⊢
    have hfield : f.field significand = 0 := by
      rw [field, hmagnitude]
      exact Nat.div_eq_of_lt hless
    rw [units_of_field_eq_zero hfield, fraction, hmagnitude, Nat.mod_eq_of_lt hless, Nat.pow_zero,
      Nat.mul_one]

/-! ## Exact rounding -/

theorem nearestEven_mul (quotient : Nat) (hden : 0 < den) :
    nearestEven (quotient * den) den = quotient := by
  have hquotient : quotient * den / den = quotient := Nat.mul_div_cancel _ hden
  have hrest : quotient * den % den = 0 := Nat.mul_mod_left _ _
  simp only [nearestEven, hquotient, hrest]
  rw [if_neg (by omega)]

/-- The same number with a smaller exponent. -/
theorem Fits.eq_of_le (h : f.Fits num den significand exponent) {e : Int} (hle : e ≤ exponent) :
    num * 2 ^ (-e).toNat = significand * 2 ^ (exponent - e).toNat * (den * 2 ^ e.toNat) := by
  have hexponents :
      exponent.toNat + (-e).toNat = (exponent - e).toNat + e.toNat + (-exponent).toNat := by
    omega
  refine Nat.eq_of_mul_eq_mul_right (Nat.two_pow_pos (-exponent).toNat) ?_
  calc num * 2 ^ (-e).toNat * 2 ^ (-exponent).toNat
      = num * 2 ^ (-exponent).toNat * 2 ^ (-e).toNat := by ring
    _ = significand * den * 2 ^ (exponent.toNat + (-e).toNat) := by rw [h.eq]; ring
    _ = significand * 2 ^ (exponent - e).toNat * (den * 2 ^ e.toNat) * 2 ^ (-exponent).toNat := by
        rw [hexponents]; ring

/-- The exponent at which a ratio is rounded is the least that there is, or it leaves the whole
significand. -/
theorem Fits.rounded (h : f.Fits num den significand exponent) (hnum : num ≠ 0) {e : Int}
    (he : e = max f.minExponent (leadingBit num den - f.fractionBits)) :
    e ≤ exponent ∧ significand * 2 ^ (exponent - e).toNat < 2 ^ (f.fractionBits + 1) ∧
      (e = f.minExponent ∨ 2 ^ f.fractionBits ≤ significand * 2 ^ (exponent - e).toNat) := by
  obtain ⟨hnot, habove⟩ := leadingBit_spec hnum (Nat.ne_of_gt h.den_pos)
  have hminimum := h.minExponent_le
  have hbelow : Below num den (exponent + (f.fractionBits + 1 : Nat)) := by
    rw [below_add_iff, h.eq]
    exact Nat.mul_lt_mul_of_pos_right h.significand_lt
      (Nat.mul_pos h.den_pos (Nat.two_pow_pos _))
  have hlead : leadingBit num den < exponent + (f.fractionBits + 1 : Nat) := by
    by_contra hge
    exact hnot (hbelow.mono (by omega))
  have hle : e ≤ exponent := by omega
  have hexact := h.eq_of_le hle
  have hpos : 0 < den * 2 ^ e.toNat := Nat.mul_pos h.den_pos (Nat.two_pow_pos _)
  refine ⟨hle, ?_, ?_⟩
  · have hupper : Below num den (e + (f.fractionBits + 1 : Nat)) := habove.mono (by omega)
    rw [below_add_iff, hexact] at hupper
    exact Nat.lt_of_mul_lt_mul_right hupper
  · by_cases hleast : e = f.minExponent
    · exact .inl hleast
    · have hlower : ¬ Below num den (e + (f.fractionBits : Nat)) := by
        intro hlt
        exact hnot (hlt.mono (by omega))
      rw [below_add_iff, hexact, Nat.not_lt] at hlower
      exact .inr (Nat.le_of_mul_le_mul_right hlower hpos)

/-- **Rounding is exact** where there is nothing to round. -/
theorem units_roundRatio (h : f.Fits num den significand exponent) :
    f.roundRatio num den < f.infinityWord ∧
      f.units (f.roundRatio num den) = significand * 2 ^ (exponent - f.minExponent).toNat := by
  have hmaximum := h.exponent_le
  have hminimum := h.minExponent_le
  by_cases hnum : num = 0
  · have hzero : significand = 0 := by
      have hprod := h.eq
      rw [hnum, Nat.zero_mul, eq_comm, Nat.mul_eq_zero] at hprod
      have hpos : 0 < den * 2 ^ exponent.toNat := Nat.mul_pos h.den_pos (Nat.two_pow_pos _)
      omega
    have hword := units_word f 0 0 (Nat.two_pow_pos _) (.inl rfl) (by omega)
    simpa [roundRatio, hnum, hzero] using hword
  · have hpow : ∀ n, Nat.pow 2 n = 2 ^ n := fun _ => rfl
    simp only [roundRatio, ratioOfParts_one, if_neg hnum]
    generalize he : max f.minExponent (leadingBit num den - f.fractionBits) = e
    obtain ⟨hle, hlt, hnormal⟩ := h.rounded hnum he.symm
    have hleast : f.minExponent ≤ e := he ▸ Int.le_max_left _ _
    have hpos : 0 < den * 2 ^ e.toNat := Nat.mul_pos h.den_pos (Nat.two_pow_pos _)
    have hplace : (e - f.minExponent).toNat = 0 ∨
        2 ^ f.fractionBits ≤ significand * 2 ^ (exponent - e).toNat := by
      rcases hnormal with rfl | hnormal
      · exact .inl (by omega)
      · exact .inr hnormal
    obtain ⟨hfinite, hunits⟩ := units_word f _ _ hlt hplace (by omega)
    have hexponents : (exponent - f.minExponent).toNat =
        (exponent - e).toNat + (e - f.minExponent).toNat := by omega
    rw [h.eq_of_le hle, nearestEven_mul _ hpos, hpow, Nat.min_eq_right (Nat.le_of_lt hfinite)]
    refine ⟨hfinite, ?_⟩
    rw [hunits, hexponents, Nat.pow_add, Nat.mul_assoc]

theorem roundRatio_le_infinityWord (f : Format) (num den : Nat) :
    f.roundRatio num den ≤ f.infinityWord := by
  unfold roundRatio
  split
  · exact Nat.zero_le _
  · exact Nat.min_le_left _ _

theorem nearestDecimal_le_infinityWord (f : Format) (digits : Nat) (exponent : Int) :
    f.nearestDecimal digits exponent ≤ f.infinityWord := by
  simp only [nearestDecimal]
  split
  · exact Nat.zero_le _
  · split
    · exact Nat.le_refl _
    · split <;> exact roundRatio_le_infinityWord f _ _

/-! ## Numbers of both formats -/

theorem parts_fst_lt (word : Nat) : (f.parts word).1 < 2 ^ (f.fractionBits + 1) := by
  have hfraction := fraction_lt (f := f) word
  have hpow : 2 ^ (f.fractionBits + 1) = 2 * 2 ^ f.fractionBits := Nat.pow_succ'
  rw [parts_eq, hpow]
  split
  · show f.fraction word < _
    omega
  · show 2 ^ f.fractionBits + f.fraction word < _
    omega

/-- The number of a word without a sign, if it is finite, has an exponent field. -/
theorem field_add_two_le {word : Nat} (h : f.magnitude word < f.infinityWord) :
    f.field word + 2 ≤ 2 ^ f.exponentBits := by
  have hlt : f.field word < 2 ^ f.exponentBits - 1 := by
    rw [field]
    exact Nat.div_lt_of_lt_mul (by rwa [Nat.mul_comm])
  omega

/-- The ratio of a finite word fits its format. -/
theorem fits_ratio {word : Nat} (hbits : 2 ≤ f.exponentBits)
    (h : f.magnitude word < f.infinityWord) :
    f.Fits (f.ratio word).1 (f.ratio word).2 (f.parts word).1 (f.parts word).2 where
  den_pos := ratio_den_pos f word
  eq := by
    rw [ratio_eq]
    ring
  significand_lt := parts_fst_lt word
  minExponent_le := minExponent_le word
  exponent_le := by
    have hfield := field_add_two_le h
    have hfour : 2 ^ 2 ≤ 2 ^ f.exponentBits := Nat.pow_le_pow_right (by decide) hbits
    rw [parts_eq]
    split
    · show f.minExponent + 3 ≤ _
      omega
    · show f.minExponent + (f.field word - 1 : Nat) + 3 ≤ _
      omega

/-- What fits the 32-bit format fits the 64-bit one. -/
theorem Fits.widen (h : single.Fits num den significand exponent) :
    double.Fits num den significand exponent where
  den_pos := h.den_pos
  eq := h.eq
  significand_lt := Nat.lt_of_lt_of_le h.significand_lt (by decide)
  minExponent_le := Int.le_trans (by decide) h.minExponent_le
  exponent_le := Int.le_trans h.exponent_le (by decide)

/-- A word that stands for the number of a ratio fits as the ratio does. -/
theorem fits_of_units {g : Format} {word : Nat} (h : f.Fits num den significand exponent)
    (hg : g.minExponent ≤ exponent)
    (hunits : g.units word = significand * 2 ^ (exponent - g.minExponent).toNat) :
    f.Fits (g.ratio word).1 (g.ratio word).2 significand exponent where
  den_pos := ratio_den_pos g word
  eq := by
    have hratio := ratio_mul (f := g) word
    have hnonpos := minExponent_nonpos (f := g)
    have hexponents : (exponent - g.minExponent).toNat + (-exponent).toNat =
        exponent.toNat + (-g.minExponent).toNat := by omega
    refine Nat.eq_of_mul_eq_mul_right (Nat.two_pow_pos (-g.minExponent).toNat) ?_
    calc (g.ratio word).1 * 2 ^ (-exponent).toNat * 2 ^ (-g.minExponent).toNat
        = (g.ratio word).1 * 2 ^ (-g.minExponent).toNat * 2 ^ (-exponent).toNat := by ring
      _ = significand * (g.ratio word).2 *
            2 ^ ((exponent - g.minExponent).toNat + (-exponent).toNat) := by
          rw [hratio, hunits]
          ring
      _ = significand * ((g.ratio word).2 * 2 ^ exponent.toNat) *
            2 ^ (-g.minExponent).toNat := by
          rw [hexponents]
          ring
  significand_lt := h.significand_lt
  minExponent_le := h.minExponent_le
  exponent_le := h.exponent_le

theorem magnitude_eq_of_units_eq {v w : Nat} (h : f.units v = f.units w) :
    f.magnitude v = f.magnitude w :=
  Nat.le_antisymm (units_le_units_iff.mp (Nat.le_of_eq h))
    (units_le_units_iff.mp (Nat.le_of_eq h.symm))

/-- **Widening loses nothing**: a finite word of 32 bits is widened to a finite word, which is
narrowed to the one there was. -/
theorem roundRatio_widened (word : Nat) (h : single.magnitude word < single.infinityWord) :
    double.roundRatio (single.ratio word).1 (single.ratio word).2 < double.infinityWord ∧
      ∀ wide, double.magnitude wide =
          double.roundRatio (single.ratio word).1 (single.ratio word).2 →
        single.roundRatio (double.ratio wide).1 (double.ratio wide).2 = single.magnitude word := by
  have hfits := fits_ratio (f := single) (by decide) h
  obtain ⟨hfinite, hunits⟩ := units_roundRatio hfits.widen
  refine ⟨hfinite, ?_⟩
  intro wide hwide
  have hsame : double.units wide =
      (single.parts word).1 * 2 ^ ((single.parts word).2 - double.minExponent).toNat := by
    rw [← hunits]
    exact units_congr (hwide.trans (magnitude_of_lt hfinite).symm)
  obtain ⟨hnarrow, hback⟩ :=
    units_roundRatio (fits_of_units hfits hfits.widen.minExponent_le hsame)
  rw [← magnitude_of_lt hnarrow]
  exact magnitude_eq_of_units_eq hback

end Format

/-! ## Words with their signs -/

theorem Binary64.isNegative_ofMagnitude (negative : Bool) {word : Nat} (h : word < 2 ^ 63) :
    (ofMagnitude negative word).isNegative = negative := by
  have hsign : Format.double.signWord = 2 ^ 63 := rfl
  have hbits : ∀ n : Nat, n.toUInt64.toNat = n % 2 ^ 64 := fun _ => rfl
  rw [isNegative, ofMagnitude, hsign, hbits]
  cases negative
  · simp
    omega
  · simp
    omega

namespace Binary32

theorem magnitude_ofMagnitude (negative : Bool) {word : Nat} (h : word < 2 ^ 31) :
    (ofMagnitude negative word).magnitude = word := by
  have hsign : Format.single.signWord = 2 ^ 31 := rfl
  have hbits : ∀ n : Nat, n.toUInt32.toNat = n % 2 ^ 32 := fun _ => rfl
  rw [magnitude, Format.magnitude, ofMagnitude, hsign, hbits]
  split <;> omega

/-- A number is its sign and its magnitude. -/
theorem ofMagnitude_magnitude (x : Binary32) : ofMagnitude x.isNegative x.magnitude = x := by
  have hsign : Format.single.signWord = 2 ^ 31 := rfl
  have hbits : ∀ n : Nat, n.toUInt32.toNat = n % 2 ^ 32 := fun _ => rfl
  obtain ⟨bits⟩ := x
  have hlt := bits.toNat_lt
  rw [ofMagnitude, isNegative, magnitude, Format.magnitude, hsign]
  congr 1
  apply UInt32.toNat_inj.mp
  rw [hbits]
  by_cases hnegative : 2 ^ 31 ≤ bits.toNat
  · simp only [hnegative, decide_true, if_true]
    omega
  · simp only [hnegative, decide_false, Bool.false_eq_true, if_false]
    omega

/-- A number, or the one word that texts have for what is not a number. -/
def Plain (x : Binary32) : Prop :=
  x.isNaN = true → x.magnitude = Format.single.infinityWord + 2 ^ 22

/-- **From 32 bits to 64 and back** a number stays what it is. -/
theorem toBinary32_toBinary64 {x : Binary32} (h : x.Plain) : x.toBinary64.toBinary32 = x := by
  have hself := x.ofMagnitude_magnitude
  have hinfinity : Format.double.infinityWord < 2 ^ 63 := by decide
  unfold toBinary64
  split
  · next hnan =>
      have hnone : Format.double.infinityWord + Nat.pow 2 51 < 2 ^ 63 := by decide
      have hmagnitude := Binary64.magnitude_ofMagnitude x.isNegative hnone
      have hsign := Binary64.isNegative_ofMagnitude x.isNegative hnone
      unfold Binary64.toBinary32
      rw [hsign, if_pos (by simp [Binary64.isNaN, hmagnitude])]
      rw [h hnan] at hself
      exact hself
  · next hnan =>
      simp only [isNaN, decide_eq_true_eq, Nat.not_lt] at hnan
      split
      · next hfinite =>
          have hword : x.magnitude < Format.single.infinityWord := of_decide_eq_true hfinite
          obtain ⟨hwide, hback⟩ := Format.roundRatio_widened x.bits.toNat hword
          have hmagnitude :=
            Binary64.magnitude_ofMagnitude x.isNegative (Nat.lt_trans hwide hinfinity)
          have hsign :=
            Binary64.isNegative_ofMagnitude x.isNegative (Nat.lt_trans hwide hinfinity)
          have hnumber : ¬ Format.double.infinityWord <
              Format.double.roundRatio (Format.single.ratio x.bits.toNat).1
                (Format.single.ratio x.bits.toNat).2 := by omega
          unfold Binary64.toBinary32 Binary64.ofRatio
          rw [hsign, if_neg (by simpa [Binary64.isNaN, hmagnitude] using hnumber),
            if_pos (by simpa [Binary64.isFinite, hmagnitude] using hwide)]
          exact (congrArg (ofMagnitude x.isNegative) (hback _ hmagnitude)).trans hself
      · next hfinite =>
          have hword : x.magnitude = Format.single.infinityWord := by
            simp only [isFinite, decide_eq_true_eq, Nat.not_lt] at hfinite
            omega
          have hmagnitude := Binary64.magnitude_ofMagnitude x.isNegative hinfinity
          have hsign := Binary64.isNegative_ofMagnitude x.isNegative hinfinity
          unfold Binary64.toBinary32
          rw [hsign, if_neg (by simp [Binary64.isNaN, hmagnitude]),
            if_neg (by simp [Binary64.isFinite, hmagnitude]), ← hword]
          exact hself

/-! ## Plain numbers -/

theorem plain_ofMagnitude (negative : Bool) {word : Nat}
    (h : word ≤ Format.single.infinityWord) : (ofMagnitude negative word).Plain := by
  intro hnan
  have hinfinity : Format.single.infinityWord < 2 ^ 31 := by decide
  rw [isNaN, magnitude_ofMagnitude negative (Nat.lt_of_le_of_lt h hinfinity),
    decide_eq_true_eq] at hnan
  omega

theorem plain_of_noNumber (negative : Bool) :
    (ofMagnitude negative (Format.single.infinityWord + Nat.pow 2 22)).Plain :=
  fun _ => magnitude_ofMagnitude negative (by decide)

theorem plain_ofRatio (negative : Bool) (num den : Nat) : (ofRatio negative num den).Plain :=
  plain_ofMagnitude negative (Format.roundRatio_le_infinityWord _ num den)

theorem plain_ofInt (n : Int) : (ofInt n).Plain := plain_ofRatio _ _ _

theorem plain_ofDecimal (negative : Bool) (digits : Nat) (exponent : Int) :
    (ofDecimal negative digits exponent).Plain :=
  plain_ofMagnitude negative (Format.nearestDecimal_le_infinityWord _ digits exponent)

theorem plain_toBinary32 (x : Binary64) : x.toBinary32.Plain := by
  unfold Binary64.toBinary32
  split
  · exact plain_of_noNumber _
  · split
    · exact plain_ofMagnitude _ (Format.roundRatio_le_infinityWord _ _ _)
    · exact plain_ofMagnitude _ (Nat.le_refl _)

end Binary32

end ModelRegistry.Number
