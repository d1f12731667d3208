import ModelRegistry.Speculative.Tensor

/-!
# ModelRegistry.Speculative.HiddenStates

Hidden states in the two element types that models use. The arithmetic is that of
the machine; whatever the type, rows are normalised in single precision.
-/

namespace ModelRegistry

open Number

/-- Machine arithmetic of single precision. -/
def Arithmetic.singlePrecision : Arithmetic Float32 where
  zero := 0
  add := (· + ·)
  mul := (· * ·)
  div := (· / ·)
  sqrt := Float32.sqrt
  ofBinary64 x := (Float.ofBits x.bits).toFloat32

/-- Machine arithmetic of double precision. -/
def Arithmetic.doublePrecision : Arithmetic Float where
  zero := 0
  add := (· + ·)
  mul := (· * ·)
  div := (· / ·)
  sqrt := Float.sqrt
  ofBinary64 x := Float.ofBits x.bits

/-- The elements of single precision tensors. -/
def Elements.singlePrecision : Elements Float32 Float32 where
  own := .singlePrecision
  single := .singlePrecision
  toSingle x := x
  ofSingle x := x

/-- The elements of double precision tensors. -/
def Elements.doublePrecision : Elements Float Float32 where
  own := .doublePrecision
  single := .singlePrecision
  toSingle x := x.toFloat32
  ofSingle x := x.toFloat

/-- Hidden states of either element type. -/
inductive HiddenStates where
  | single (t : Tensor Float32)
  | double (t : Tensor Float)

/-- Applies an adapter to hidden states, in their element type. -/
def Adapter.translate (a : Adapter) : HiddenStates → Except AdapterError HiddenStates
  | .single t =>
    match a.apply .singlePrecision t with
    | .ok out => .ok (.single out)
    | .error e => .error e
  | .double t =>
    match a.apply .doublePrecision t with
    | .ok out => .ok (.double out)
    | .error e => .error e

end ModelRegistry
