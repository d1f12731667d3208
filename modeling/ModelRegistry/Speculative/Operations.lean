import ModelRegistry.Speculative.Tensor

/-!
# ModelRegistry.Speculative.Operations

Operations on whole tensors of any number of dimensions, and the steps of an
adapter put together from them.

`Tensor.applyStep` says what a step makes of each row. `Tensor.performStep` says
which operations a step consists of: chunks become a dimension of their own, over
which a mean is taken; a normalisation takes the mean of the squares over the last
dimension, keeps that dimension and stretches it again. Elements are addressed by
one number for each dimension, and stand in row-major order.
-/

namespace ModelRegistry

namespace Tensor

variable {α β σ : Type}

/-! ## Indices -/

/-- The place of an index in row-major order. -/
def place : List Nat → List Nat → Nat
  | _ :: shape, i :: index => i * sizeOf shape + place shape index
  | _, _ => 0

/-- The index at a place in row-major order. -/
def indexAt : List Nat → Nat → List Nat
  | [], _ => []
  | _ :: shape, n => n / sizeOf shape :: indexAt shape (n % sizeOf shape)

/-- The element at an index. -/
def get (zero : α) (t : Tensor α) (index : List Nat) : α := t.data.getD (place t.shape index) zero

/-- The tensor of this shape with the elements that `element` gives. -/
def ofIndex (shape : List Nat) (element : List Nat → α) : Tensor α where
  shape
  data := (Array.range (sizeOf shape)).map fun n => element (indexAt shape n)

/-! ## Operations -/

/-- The tensor with a function applied to each element. -/
def map (f : α → β) (t : Tensor α) : Tensor β := ⟨t.shape, t.data.map f⟩

/-- The same elements in another shape, which must have as many. -/
def reshape? (shape : List Nat) (t : Tensor α) : Option (Tensor α) :=
  if sizeOf shape = sizeOf t.shape then some { t with shape } else none

/-- A range of a dimension, which must lie inside it. -/
def narrow? (zero : α) (axis start length : Nat) (t : Tensor α) : Option (Tensor α) :=
  if start + length ≤ t.shape.getD axis 0 then
    some (ofIndex (t.shape.set axis length) fun index =>
      t.get zero (index.set axis (start + index.getD axis 0)))
  else none

/-- The means over a dimension, which is kept with the size 1. -/
def meanKeep (A : Arithmetic α) (axis : Nat) (t : Tensor α) : Tensor α :=
  let size := t.shape.getD axis 0
  ofIndex (t.shape.set axis 1) fun index =>
    A.meanOfSum (A.sum ((List.range size).map fun i => t.get A.zero (index.set axis i))) size

/-- The means over a dimension, which is dropped. -/
def mean (A : Arithmetic α) (axis : Nat) (t : Tensor α) : Tensor α :=
  { t.meanKeep A axis with shape := t.shape.eraseIdx axis }

/-- The tensor with each element combined with that of another one at the same index. Where the
other has the size 1, it is stretched. -/
def combine (zero : α) (f : α → α → α) (t other : Tensor α) : Tensor α :=
  ofIndex t.shape fun index =>
    f (t.get zero index)
      (other.get zero (List.zipWith (fun size i => if size = 1 then 0 else i) other.shape index))

/-! ## Steps -/

/-- The rows divided by their root mean square, computed in single precision. -/
def normalize (E : Elements α σ) (eps : Number.Binary64) (t : Tensor α) : Tensor α :=
  let single := t.map E.toSingle
  let squares := single.map fun x => E.single.mul x x
  let meanSquare := squares.meanKeep E.single (squares.shape.length - 1)
  let root := meanSquare.map fun x => E.single.sqrt (E.single.affine .one eps x)
  (single.combine E.single.zero E.single.div root).map E.ofSingle

/-- The tensor after a step, as the operations on it make it. -/
def performStep (E : Elements α σ) (t : Tensor α) : Step → Option (Tensor α)
  | .identity => some t
  | .narrow start length =>
    t.narrow? E.own.zero (t.shape.length - 1) start.toNat length.toNat
  | .chunkMean chunks =>
    let leading := t.shape.dropLast
    let size := t.shape.getLastD 0 / chunks.toNat
    (t.reshape? (leading ++ [chunks.toNat, size])).map (·.mean E.own leading.length)
  | .rmsNorm eps => some (t.normalize E eps)
  | .scale factor => some (t.map (E.own.scale factor))

/-- The tensor after some steps. -/
def performSteps (E : Elements α σ) (t : Tensor α) : List Step → Option (Tensor α)
  | [] => some t
  | step :: rest => (t.performStep E step).bind (performSteps E · rest)

/-- The row at an index of the leading dimensions, as a tensor of one dimension. -/
def row (t : Tensor α) (index : List Nat) : Tensor α :=
  let width := t.shape.getLastD 0
  let start := place t.shape.dropLast index * width
  ⟨[width], t.data.extract start (start + width)⟩

end Tensor

end ModelRegistry
