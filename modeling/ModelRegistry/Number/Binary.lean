/-!
# ModelRegistry.Number.Binary

Binary floating point, as words. A format is given by the widths of its two
fields; a word holds a sign, an exponent field and a fraction, and stands for

```
(-1)^sign · significand · 2^exponent
```

Everything here is exact arithmetic on natural numbers: a word is taken apart
into its significand and exponent (`Format.parts`), and a ratio is rounded to
the nearest word, ties to the even one (`Format.roundRatio`). `Binary64` and
`Binary32` are the two formats that configurations and settings use.
-/

namespace ModelRegistry.Number

/-- The widths of the fraction and exponent fields of a binary format. -/
structure Format where
  fractionBits : Nat
  exponentBits : Nat
  deriving DecidableEq, Repr

/-- The 64-bit format. -/
def Format.double : Format := ⟨52, 11⟩

/-- The 32-bit format. -/
def Format.single : Format := ⟨23, 8⟩

namespace Format

/-- The word of the sign alone. -/
def signWord (f : Format) : Nat := Nat.pow 2 (f.fractionBits + f.exponentBits)

/-- The word of positive infinity: all ones in the exponent field. -/
def infinityWord (f : Format) : Nat := (Nat.pow 2 f.exponentBits - 1) * Nat.pow 2 f.fractionBits

/-- The word without its sign. -/
def magnitude (f : Format) (word : Nat) : Nat := word % f.signWord

/-- The exponent of the smallest positive number. -/
def minExponent (f : Format) : Int :=
  -(((Nat.pow 2 (f.exponentBits - 1) - 2 + f.fractionBits : Nat)) : Int)

/-- The significand and exponent of a finite word. A word with an empty exponent field has
no hidden bit. -/
def parts (f : Format) (word : Nat) : Nat × Int :=
  let field := f.magnitude word / Nat.pow 2 f.fractionBits
  let fraction := f.magnitude word % Nat.pow 2 f.fractionBits
  if field = 0 then (fraction, f.minExponent)
  else (Nat.pow 2 f.fractionBits + fraction, f.minExponent + (field - 1 : Nat))

/-- `significand · 2^exponent` as numerator and denominator. -/
def ratioOfParts (significand : Nat) (exponent : Int) : Nat × Nat :=
  if 0 ≤ exponent then (significand * Nat.pow 2 exponent.toNat, 1)
  else (significand, Nat.pow 2 (-exponent).toNat)

/-- The magnitude of a finite word as numerator and denominator. -/
def ratio (f : Format) (word : Nat) : Nat × Nat :=
  let (significand, exponent) := f.parts word
  ratioOfParts significand exponent

/-- The integer nearest to `num / den`, a half going to the even neighbour. -/
def nearestEven (num den : Nat) : Nat :=
  let quotient := num / den
  let rest := num % den
  if den < 2 * rest ∨ (2 * rest = den ∧ quotient % 2 = 1) then quotient + 1 else quotient

/-- The place of the leading bit of `num / den`: the `k` with `2^k ≤ num / den < 2^(k+1)`. -/
def leadingBit (num den : Nat) : Int :=
  let estimate : Int := (num.log2 : Int) - den.log2
  let (scale, unscale) := ratioOfParts 1 estimate
  if num * unscale < den * scale then estimate - 1 else estimate

/-- The word nearest to `num / den`, a tie going to the even word; infinity when the ratio
is beyond the largest finite number. -/
def roundRatio (f : Format) (num den : Nat) : Nat :=
  if num = 0 then 0
  else
    let exponent := max f.minExponent (leadingBit num den - f.fractionBits)
    let (scale, unscale) := ratioOfParts 1 exponent
    let significand := nearestEven (num * unscale) (den * scale)
    min f.infinityWord
      ((exponent - f.minExponent).toNat * Nat.pow 2 f.fractionBits + significand)

end Format

/-- A number of the 64-bit binary format, by its word. -/
structure Binary64 where
  bits : UInt64
  deriving DecidableEq, Repr, Inhabited

/-- A number of the 32-bit binary format, by its word. -/
structure Binary32 where
  bits : UInt32
  deriving DecidableEq, Repr, Inhabited

namespace Binary64

/-- The number with this sign and this word for its magnitude. -/
def ofMagnitude (negative : Bool) (word : Nat) : Binary64 :=
  ⟨(if negative then Format.double.signWord + word else word).toUInt64⟩

/-- The word without its sign. -/
def magnitude (x : Binary64) : Nat := Format.double.magnitude x.bits.toNat

/-- Whether the sign is set; negative zero is negative. -/
def isNegative (x : Binary64) : Bool := Format.double.signWord ≤ x.bits.toNat

/-- Whether `x` is not a number. -/
def isNaN (x : Binary64) : Bool := Format.double.infinityWord < x.magnitude

/-- Whether `x` is neither infinite nor not a number. -/
def isFinite (x : Binary64) : Bool := x.magnitude < Format.double.infinityWord

/-- Whether `x` is a zero of either sign. -/
def isZero (x : Binary64) : Bool := x.magnitude = 0

/-- Whether `x` is greater than zero. -/
def isPositive (x : Binary64) : Bool := !x.isNegative && !x.isNaN && !x.isZero

/-- The nearest number to `num / den`, with the given sign. -/
def ofRatio (negative : Bool) (num den : Nat) : Binary64 :=
  ofMagnitude negative (Format.double.roundRatio num den)

/-- The nearest number to an integer. -/
def ofInt (n : Int) : Binary64 := ofRatio (n < 0) n.natAbs 1

/-- One. -/
def one : Binary64 := ofInt 1

/-- Zero, without a sign. -/
def zero : Binary64 := ⟨0⟩

end Binary64

namespace Binary32

/-- The number with this sign and this word for its magnitude. -/
def ofMagnitude (negative : Bool) (word : Nat) : Binary32 :=
  ⟨(if negative then Format.single.signWord + word else word).toUInt32⟩

/-- The word without its sign. -/
def magnitude (x : Binary32) : Nat := Format.single.magnitude x.bits.toNat

/-- Whether the sign is set; negative zero is negative. -/
def isNegative (x : Binary32) : Bool := Format.single.signWord ≤ x.bits.toNat

/-- Whether `x` is not a number. -/
def isNaN (x : Binary32) : Bool := Format.single.infinityWord < x.magnitude

/-- Whether `x` is neither infinite nor not a number. -/
def isFinite (x : Binary32) : Bool := x.magnitude < Format.single.infinityWord

/-- Whether `x` is a zero of either sign. -/
def isZero (x : Binary32) : Bool := x.magnitude = 0

/-- Whether `x` is greater than zero. -/
def isPositive (x : Binary32) : Bool := !x.isNegative && !x.isNaN && !x.isZero

/-- The nearest number to `num / den`, with the given sign. -/
def ofRatio (negative : Bool) (num den : Nat) : Binary32 :=
  ofMagnitude negative (Format.single.roundRatio num den)

/-- The nearest number to an integer. -/
def ofInt (n : Int) : Binary32 := ofRatio (n < 0) n.natAbs 1

/-- Whether two numbers are equal: zeros are, whatever their signs, and what is not a number
equals nothing. -/
def isEqual (x y : Binary32) : Bool := !x.isNaN && (x == y || (x.isZero && y.isZero))

/-- The word of one. -/
def oneWord : Nat := Format.single.roundRatio 1 1

/-- Whether `x` is at most one. The words of positive numbers are ordered as the numbers
are, and no comparison holds of what is not a number. -/
def isAtMostOne (x : Binary32) : Bool := !x.isNaN && (x.isNegative || x.magnitude ≤ oneWord)

end Binary32

/-- The 32-bit number nearest to a 64-bit one. -/
def Binary64.toBinary32 (x : Binary64) : Binary32 :=
  if x.isNaN then .ofMagnitude x.isNegative (Format.single.infinityWord + Nat.pow 2 22)
  else if x.isFinite then
    let (num, den) := Format.double.ratio x.bits.toNat
    .ofMagnitude x.isNegative (Format.single.roundRatio num den)
  else .ofMagnitude x.isNegative Format.single.infinityWord

/-- The 64-bit number equal to a 32-bit one. -/
def Binary32.toBinary64 (x : Binary32) : Binary64 :=
  if x.isNaN then .ofMagnitude x.isNegative (Format.double.infinityWord + Nat.pow 2 51)
  else if x.isFinite then
    let (num, den) := Format.single.ratio x.bits.toNat
    .ofRatio x.isNegative num den
  else .ofMagnitude x.isNegative Format.double.infinityWord

end ModelRegistry.Number
