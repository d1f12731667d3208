import ModelRegistry.Number.Shortest

/-!
# ModelRegistry.Number.Decimal

From decimal digits to binary numbers, in the two ways that the texts of this
library need.

* `Format.nearestDecimal` takes the nearest number, as settings tables and
  command lines do.
* `scaledDecimal?` is the rule of JSON text: the leading digits that fit 64 bits
  are rounded once, and the result is multiplied or divided by a power of ten,
  which rounds again. Digits beyond those 64 bits are not looked at. For up to
  fifteen digits and small exponents both ways agree.
-/

namespace ModelRegistry.Number

/-- The value of a decimal digit. -/
def digitValue (c : Char) : Nat := c.toNat - '0'.toNat

/-- The number that a list of decimal digits writes. -/
def digitsValue (ds : List Char) : Nat := ds.foldl (fun n c => n * 10 + digitValue c) 0

/-- The word nearest to `digits · 10^exponent`. Exponents far outside the range of the format
are answered without computing the power. -/
def Format.nearestDecimal (f : Format) (digits : Nat) (exponent : Int) : Nat :=
  let place := exponent + decimalLength digits
  let bound : Int := Nat.pow 2 f.exponentBits
  if digits = 0 ∨ place < -bound then 0
  else if bound < place then f.infinityWord
  else if 0 ≤ exponent then f.roundRatio (digits * Nat.pow 10 exponent.toNat) 1
  else f.roundRatio digits (Nat.pow 10 (-exponent).toNat)

/-- The 64-bit number nearest to a decimal. -/
def Binary64.ofDecimal (negative : Bool) (digits : Nat) (exponent : Int) : Binary64 :=
  .ofMagnitude negative (Format.double.nearestDecimal digits exponent)

/-- The 32-bit number nearest to a decimal. -/
def Binary32.ofDecimal (negative : Bool) (digits : Nat) (exponent : Int) : Binary32 :=
  .ofMagnitude negative (Format.single.nearestDecimal digits exponent)

/-- The 64-bit number that the shortest decimal of a 32-bit number writes; the two show the
same digits. -/
def Binary32.toBinary64ByDigits (x : Binary32) : Binary64 :=
  if x.isFinite && !x.isZero then
    let d := Format.single.shortest true x.magnitude
    .ofDecimal x.isNegative d.digits d.exponent
  else x.toBinary64

/-! ## The rule of JSON text -/

/-- The largest power of ten that is a finite 64-bit number. -/
def maxPow10 : Nat := 308

/-- The word of `10^k`. -/
def pow10Word (k : Nat) : Nat := Format.double.roundRatio (Nat.pow 10 k) 1

/-- The rounded product of two finite words. -/
def mulWords (a b : Nat) : Nat :=
  let (n, d) := Format.double.ratio a
  let (m, e) := Format.double.ratio b
  Format.double.roundRatio (n * m) (d * e)

/-- The rounded quotient of two finite words, the second not zero. -/
def divWords (a b : Nat) : Nat :=
  let (n, d) := Format.double.ratio a
  let (m, e) := Format.double.ratio b
  Format.double.roundRatio (n * e) (d * m)

/-- A word divided by `10^k`, in steps of the largest power that there is. -/
def scaleDown (word k : Nat) : Nat :=
  if word = 0 then 0
  else if k ≤ maxPow10 then divWords word (pow10Word k)
  else scaleDown (divWords word (pow10Word maxPow10)) (k - maxPow10)
termination_by k
decreasing_by
  have : 0 < maxPow10 := by decide
  omega

/-- A significand of at most 64 bits times a power of ten; nothing when the result is beyond
the largest finite number. -/
def scaledWord? (significand : Nat) (exponent : Int) : Option Nat :=
  let word := Format.double.roundRatio significand 1
  if exponent < 0 then some (scaleDown word (-exponent).toNat)
  else if maxPow10 < exponent.toNat then (if word = 0 then some 0 else none)
  else
    let product := mulWords word (pow10Word exponent.toNat)
    if product < Format.double.infinityWord then some product else none

/-- The longest run of leading digits whose value, continued from `start`, fits 64 bits, and
how many digits come after it. -/
def leadingDigits (start : Nat) : List Char → Nat × List Char
  | [] => (start, [])
  | c :: rest =>
    let next := start * 10 + digitValue c
    if next < UInt64.size then leadingDigits next rest else (start, c :: rest)

/-- The largest exponent that is read digit by digit. -/
def maxExponent : Nat := 2147483647

/-- The number of a decimal literal with the digits `whole` before the point, `fraction` after
it and a power of ten as exponent. Whole digits beyond 64 bits count as factors of ten, digits of
the fraction beyond them are dropped. Nothing when the number is out of range. -/
def scaledDecimal? (negative : Bool) (whole fraction : List Char) (exponent : Int) :
    Option Binary64 :=
  let (head, wholeRest) := leadingDigits 0 whole
  let (significand, fractionRest) := leadingDigits head fraction
  let read : Int := (fraction.length : Int) - fractionRest.length
  let start : Int := (wholeRest.length : Int) - read
  let magnitude? :=
    if maxExponent < exponent.natAbs then
      if significand ≠ 0 ∧ 0 < exponent then none else some 0
    else scaledWord? significand (start + exponent)
  magnitude?.map (Binary64.ofMagnitude negative)

end ModelRegistry.Number
