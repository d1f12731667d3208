import ModelRegistry.Speculative.Adapter

/-!
# ModelRegistry.Speculative.Tensor

Tensors, and adapters applied to them. A tensor has a shape and its elements in
row-major order; every step of an adapter works along the last dimension, so a
tensor is treated as rows of `width` elements.

The arithmetic of the elements is a parameter (`Elements`). Nothing is assumed of
it; the definitions fix which operations are applied and in which order. Numbers are
scaled by affine maps only, so that an offset is added even where it is zero (it makes
a zero of either sign positive). A normalisation computes in a second arithmetic, of
single precision.
-/

namespace ModelRegistry

open Number

/-- The arithmetic of one type of numbers. -/
structure Arithmetic (α : Type) where
  zero : α
  add : α → α → α
  mul : α → α → α
  div : α → α → α
  sqrt : α → α
  ofBinary64 : Binary64 → α

namespace Arithmetic

variable {α : Type} (A : Arithmetic α)

/-- The sum of some numbers, from the left. -/
def sum (xs : List α) : α := xs.foldl A.add A.zero

/-- A number times a factor, plus an offset. Both are converted first. -/
def affine (factor offset : Binary64) (x : α) : α :=
  A.add (A.mul x (A.ofBinary64 factor)) (A.ofBinary64 offset)

/-- A number times a factor. -/
def scale (factor : Binary64) (x : α) : α := A.affine factor .zero x

/-- The mean of `n` numbers with this sum. The reciprocal of the count is rounded once as a
64-bit float. -/
def meanOfSum (total : α) (n : Nat) : α := A.scale (.ofRatio false 1 n) total

end Arithmetic

/-- The arithmetic of the elements of a tensor, and the one in which rows are normalised. -/
structure Elements (α σ : Type) where
  own : Arithmetic α
  single : Arithmetic σ
  toSingle : α → σ
  ofSingle : σ → α

/-- A tensor in row-major order. -/
structure Tensor (α : Type) where
  shape : List Nat
  data : Array α

namespace Tensor

variable {α σ : Type}

/-- The number of elements of a tensor of this shape. -/
def sizeOf (shape : List Nat) : Nat := shape.foldr (· * ·) 1

/-- The size of the last dimension, if there is one. -/
def width? (t : Tensor α) : Option Nat := t.shape.getLast?

/-- The tensor with the leading dimensions of another and the rows that `row` gives. -/
def ofRows (leading : List Nat) (width : Nat) (element : Nat → Nat → α) : Tensor α where
  shape := leading ++ [width]
  data := (Array.range (sizeOf leading * width)).map fun i => element (i / width) (i % width)

/-- The element of a row of a tensor whose rows have `width` elements. -/
def element (zero : α) (t : Tensor α) (width row column : Nat) : α :=
  t.data.getD (row * width + column) zero

/-- The element that a step puts into a row, from the elements of that row. The row has
`width` elements. -/
def stepElement (E : Elements α σ) (width : Nat) (row : Nat → α) : Step → Nat → α
  | .identity, j => row j
  | .narrow start _, j => row (start.toNat + j)
  | .chunkMean chunks, j =>
    let size := width / chunks.toNat
    let chunk := (List.range chunks.toNat).map fun c => row (c * size + j)
    E.own.meanOfSum (E.own.sum chunk) chunks.toNat
  | .rmsNorm eps, j =>
    let single := fun k => E.toSingle (row k)
    let squares := (List.range width).map fun k => E.single.mul (single k) (single k)
    let meanSquare := E.single.meanOfSum (E.single.sum squares) width
    let root := E.single.sqrt (E.single.affine .one eps meanSquare)
    E.ofSingle (E.single.div (single j) root)
  | .scale factor, j => E.own.scale factor (row j)

/-- The width of the rows after a step, if the tensor allows it: a range that is narrowed to
lies inside the row, and chunks divide it. -/
def stepWidth? (width : Nat) : Step → Option Nat
  | .narrow start length =>
    if start.toNat + length.toNat ≤ width then some length.toNat else none
  | .chunkMean chunks =>
    if chunks ≠ 0 ∧ width % chunks.toNat = 0 then some (width / chunks.toNat) else none
  | _ => some width

/-- The tensor after a step. -/
def applyStep (E : Elements α σ) (t : Tensor α) (step : Step) : Except AdapterError (Tensor α) :=
  match t.width? with
  | none => .error .tensor
  | some width =>
    match stepWidth? width step with
    | none => .error .tensor
    | some next =>
      .ok (ofRows t.shape.dropLast next fun i =>
        stepElement E width (t.element E.own.zero width i) step)

/-- The tensor after some steps. -/
def applySteps (E : Elements α σ) (t : Tensor α) : List Step → Except AdapterError (Tensor α)
  | [] => .ok t
  | step :: rest =>
    match applyStep E t step with
    | .ok next => applySteps E next rest
    | .error e => .error e

end Tensor

/-- Applies an adapter. Its steps are checked first, then that the rows have the native
width. -/
def Adapter.apply {α σ : Type} (E : Elements α σ) (a : Adapter) (t : Tensor α) :
    Except AdapterError (Tensor α) :=
  match a.produced with
  | .error e => .error e
  | .ok _ =>
    match t.width? with
    | none => .error .tensor
    | some width =>
      if width ≠ a.nativeWidth.toNat then .error (.widthMismatch a.nativeWidth.toNat width)
      else t.applySteps E a.steps

end ModelRegistry
