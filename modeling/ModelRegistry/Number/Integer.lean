/-!
# ModelRegistry.Number.Integer

The bounds of integers of 64 bits. Without a sign they stay below `UInt64.size`.
-/

namespace ModelRegistry.Number

/-- What a signed integer of 64 bits stays below; its negative is the least of them. -/
abbrev signedBound : Nat := 9223372036854775808

/-- The integer is a signed one of 64 bits. -/
abbrev IsSigned (n : Int) : Prop := -(signedBound : Int) ≤ n ∧ n < (signedBound : Int)

end ModelRegistry.Number
