import ModelRegistry.Number.Binary

/-!
# ModelRegistry.Number.Shortest

The shortest decimal that reads back as a given binary number, and the three
ways in which texts write it.

A decimal reads back as a word when it lies in the interval of numbers that
round to that word. For one, two, three, … digits the two neighbours of the
number on the decimal grid of that many digits are tried; the first grid with
a neighbour in the interval wins, and of two neighbours the nearer one. All of
it is comparison of natural numbers.
-/

namespace ModelRegistry.Number

/-- A decimal `digits · 10^exponent`. -/
structure Decimal where
  digits : Nat
  exponent : Int
  deriving DecidableEq, Repr

/-- The number of decimal digits of `n`; zero has none. -/
def decimalLength (n : Nat) : Nat := if n = 0 then 0 else (Nat.toDigits 10 n).length

/-- The `p` with `10^(p-1) ≤ num / den < 10^p`. Below one it comes from the least `j` with
`1 ≤ 10^j · num / den`. -/
def leadingPlace (num den : Nat) : Int :=
  if den ≤ num then decimalLength (num / den)
  else 1 - (decimalLength ((num + den - 1) / num - 1) : Int)

/-- `num / den` divided by `10^k`, as numerator and denominator. -/
def dividePow10 (num den : Nat) (k : Int) : Nat × Nat :=
  if 0 ≤ k then (num, den * Nat.pow 10 k.toNat) else (num * Nat.pow 10 (-k).toNat, den)

/-- The interval of numbers that round to a finite word, in quarters of the unit of the
word's last place: both ends and the number itself, over a common denominator, and whether
the ends belong to it. The gap below a power of two is half as wide as the one above. -/
structure Interval where
  low : Nat
  middle : Nat
  high : Nat
  den : Nat
  closed : Bool

/-- The interval of a finite word that is not zero. -/
def Format.interval (f : Format) (word : Nat) : Interval :=
  let (significand, exponent) := f.parts word
  let (scale, den) := Format.ratioOfParts 1 (exponent - 2)
  let narrow := significand = Nat.pow 2 f.fractionBits ∧ f.minExponent < exponent
  { low := (4 * significand - (if narrow then 1 else 2)) * scale
    middle := 4 * significand * scale
    high := (4 * significand + 2) * scale
    den
    closed := significand % 2 = 0 }

/-- Whether `digits · 10^k` lies in the interval. -/
def Interval.contains (i : Interval) (digits : Nat) (k : Int) : Bool :=
  let (num, den) := dividePow10 digits 1 (-k)
  let value := num * i.den
  if i.closed then i.low * den ≤ value && value ≤ i.high * den
  else i.low * den < value && value < i.high * den

/-- The neighbour of the interval's middle on the grid of multiples of `10^k` that lies in
the interval, the nearer one if both do. `tieUp` says which of two equally near ones is
taken: the upper one, or else the even one. -/
def Interval.onGrid? (i : Interval) (tieUp : Bool) (k : Int) : Option Nat :=
  let (num, den) := dividePow10 i.middle i.den k
  let below := num / den
  let rest := num % den
  let above := if rest = 0 then below else below + 1
  let nearer :=
    if 2 * rest < den then below
    else if den < 2 * rest then above
    else if tieUp || below % 2 = 1 then above else below
  match i.contains below k, i.contains above k with
  | true, true => some nearer
  | true, false => some below
  | false, true => some above
  | false, false => none

/-- The number without the zeros at its end, which the exponent takes over. -/
def Decimal.normalize : Nat → Decimal → Decimal
  | 0, d => d
  | fuel + 1, d =>
    if d.digits ≠ 0 ∧ d.digits % 10 = 0 then
      Decimal.normalize fuel { digits := d.digits / 10, exponent := d.exponent + 1 }
    else d

/-- The shortest decimal that reads back as the finite word, not zero. Seventeen digits
always suffice. -/
def Format.shortest (f : Format) (tieUp : Bool) (word : Nat) : Decimal :=
  let i := f.interval word
  let place := leadingPlace i.middle i.den
  let lengths : List Nat := (List.range 17).map (· + 1)
  match lengths.findSome? fun (n : Nat) =>
      let k : Int := place - (n : Int)
      (i.onGrid? tieUp k).map fun digits => Decimal.mk digits k with
  | some d => d.normalize 20
  | none => ⟨0, 0⟩

/-- The decimal digits of `n`. -/
def digitChars (n : Nat) : List Char := Nat.toDigits 10 n

/-- A run of `n` zeros. -/
def zeros (n : Nat) : List Char := List.replicate n '0'

/-- The decimal without an exponent mark, and the point only when digits follow it. -/
def Decimal.positional (d : Decimal) : List Char :=
  let ds := digitChars d.digits
  if 0 ≤ d.exponent then ds ++ zeros d.exponent.toNat
  else
    let after := (-d.exponent).toNat
    if after < ds.length then
      ds.take (ds.length - after) ++ '.' :: ds.drop (ds.length - after)
    else '0' :: '.' :: zeros (after - ds.length) ++ ds

/-- The decimal as JSON text has it. It is positional, with a point, when at most `above`
digits stand before the point and fewer than `below` zeros follow it; otherwise one digit
stands before the point and an exponent follows. -/
def Decimal.withExponent (below above : Int) (d : Decimal) : List Char :=
  let ds := digitChars d.digits
  let place : Int := ds.length + d.exponent
  if 0 ≤ d.exponent ∧ place ≤ above then d.positional ++ ['.', '0']
  else if -below < place ∧ place ≤ above then d.positional
  else
    let power := place - 1
    let exponentText := 'e' :: (if power < 0 then ['-'] else []) ++ digitChars power.natAbs
    match ds with
    | [] => []
    | [c] => c :: exponentText
    | c :: rest => c :: '.' :: rest ++ exponentText

/-- The text of a number: the shortest decimal that reads back, as `text` writes it. -/
def Format.textOf (f : Format) (tieUp : Bool) (text : Decimal → List Char) (zeroText : String)
    (word : Nat) : String :=
  let magnitude := f.magnitude word
  let sign := if f.signWord ≤ word then "-" else ""
  if f.infinityWord < magnitude then "NaN"
  else if magnitude = f.infinityWord then sign ++ "inf"
  else if magnitude = 0 then sign ++ zeroText
  else sign ++ String.ofList (text (f.shortest tieUp magnitude))

/-- The number as messages show it: no exponent, no point in a whole number. -/
def Binary64.display (x : Binary64) : String :=
  Format.double.textOf true Decimal.positional "0" x.bits.toNat

/-- The number as messages show it. -/
def Binary32.display (x : Binary32) : String :=
  Format.single.textOf true Decimal.positional "0" x.bits.toNat

/-- The finite number as JSON text has it. -/
def Binary64.jsonText (x : Binary64) : String :=
  Format.double.textOf false (Decimal.withExponent 5 16) "0.0" x.bits.toNat

/-- The finite number as JSON text has it. -/
def Binary32.jsonText (x : Binary32) : String :=
  Format.single.textOf false (Decimal.withExponent 6 13) "0.0" x.bits.toNat

/-- The number as a settings file has it: no exponent, and a point in every finite number. -/
def Binary64.settingText (x : Binary64) : String :=
  if x.isNaN then "nan"
  else if x.isFinite then
    let whole := (Format.double.ratio x.bits.toNat).1 % (Format.double.ratio x.bits.toNat).2 = 0
    if whole then x.display ++ ".0" else x.display
  else x.display

end ModelRegistry.Number
