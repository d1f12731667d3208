/-!
# ModelRegistry.Text.Hex

Digits of bases up to sixteen, as texts write them.
-/

namespace ModelRegistry.Text

/-- The value of a hexadecimal digit. -/
def hexValue? (c : Char) : Option Nat :=
  if '0' ≤ c ∧ c ≤ '9' then some (c.toNat - '0'.toNat)
  else if 'a' ≤ c ∧ c ≤ 'f' then some (c.toNat - 'a'.toNat + 10)
  else if 'A' ≤ c ∧ c ≤ 'F' then some (c.toNat - 'A'.toNat + 10)
  else none

/-- Whether the character is a digit of the base. -/
def isDigitOf (base : Nat) (c : Char) : Bool := (hexValue? c).any (· < base)

/-- The number that a list of digits of the base writes. -/
def numberOf (base : Nat) (ds : List Char) : Nat :=
  ds.foldl (fun n c => n * base + (hexValue? c).getD 0) 0

/-- The number that a list of hexadecimal digits writes. -/
def hexNumber? (ds : List Char) : Option Nat :=
  if ds.all (isDigitOf 16) then some (numberOf 16 ds) else none

end ModelRegistry.Text
