import ModelRegistry.Document
import ModelRegistry.Number.Shortest

/-!
# ModelRegistry.Speculative.Adapter

Hidden-state adapters. The models of a speculative pair expose hidden states of
their own widths and norms; an adapter is a list of steps along the hidden
dimension that leads from a native layout to the one that both sides share.

An adapter is plain data. `Adapter.produced` walks its steps symbolically, before
any tensor is touched: it either finds the layout that they produce or the first
step that cannot be done. Widths are 64-bit words, and so is the end of a narrowed
range. Sums of words are checked: where the end of a range is no word, the program
stops (`Halt`) instead of going on with what is left of the sum.
-/

namespace ModelRegistry

open Number

/-- The normalisation of a hidden state. -/
inductive Norm where
  /-- Raw activations of the residual stream. -/
  | none
  /-- Unit root mean square along the hidden dimension. -/
  | rmsNorm
  /-- Zero mean and unit variance along the hidden dimension. -/
  | layerNorm
  deriving DecidableEq, Repr

namespace Norm

/-- All norms. -/
def all : List Norm := [.none, .rmsNorm, .layerNorm]

/-- The norm as declarations write it. -/
def key : Norm → String
  | .none => "none"
  | .rmsNorm => "rms_norm"
  | .layerNorm => "layer_norm"

/-- The norm as messages name it. -/
def name : Norm → String
  | .none => "None"
  | .rmsNorm => "RmsNorm"
  | .layerNorm => "LayerNorm"

end Norm

/-- The width and norm of hidden states. -/
structure Layout where
  width : UInt64
  norm : Norm
  deriving DecidableEq, Repr

/-- The layout as messages show it. -/
def Layout.text (l : Layout) : String :=
  "SharedLayout \x7b width: " ++ toString l.width.toNat ++ ", norm: " ++ l.norm.name ++ " \x7d"

/-- One transformation along the hidden dimension. -/
inductive Step where
  | identity
  /-- Keeps `length` features from `start` on. -/
  | narrow (start length : UInt64)
  /-- Splits the features into equal chunks and averages them. -/
  | chunkMean (chunks : UInt64)
  /-- Divides by the root mean square, `eps` added to the mean square. -/
  | rmsNorm (eps : Binary64)
  | scale (factor : Binary64)
  deriving DecidableEq, Repr

/-- Why the program stops in the middle of what it does. That is no error: nobody who called
gets an answer, and nothing that would have come after is done. -/
inductive Halt where
  /-- The sum of two sizes is no word. -/
  | overflow
  deriving DecidableEq, Repr

/-- The text with which the program stops. -/
def Halt.message : Halt → String
  | .overflow => "attempt to add with overflow"

/-- The sum of two sizes, if it is a word. -/
def sizeSum? (x y : UInt64) : Option UInt64 :=
  if x.toNat + y.toNat < UInt64.size then some (x + y) else none

/-- Why a step cannot be done, or an adapter has no first width. -/
inductive StepFault where
  | emptyNative
  | narrow (start stop width : UInt64)
  | indivisible (width chunks : UInt64)
  | eps (value : Binary64)
  | factor
  deriving DecidableEq, Repr

/-- The text of the fault. -/
def StepFault.message : StepFault → String
  | .emptyNative => "native width must be positive"
  | .narrow start stop width =>
    "narrow " ++ toString start.toNat ++ ".." ++ toString stop.toNat ++ " out of width "
      ++ toString width.toNat
  | .indivisible width chunks =>
    "width " ++ toString width.toNat ++ " not divisible into " ++ toString chunks.toNat ++ " chunks"
  | .eps value => "rms_norm eps must be positive, got " ++ value.display
  | .factor => "scale factor must be finite"

/-- Why an adapter cannot be used. -/
inductive AdapterError where
  | widthMismatch (expected actual : Nat)
  | invalidStep (index : Nat) (fault : StepFault)
  | layoutMismatch (produced declared : Layout)
  /-- The tensor itself does not allow the operation. -/
  | tensor
  /-- The program stops on the way. -/
  | halt (reason : Halt)
  deriving DecidableEq, Repr

/-- The text of the error. -/
def AdapterError.message : AdapterError → String
  | .widthMismatch expected actual =>
    "hidden state width mismatch: expected " ++ toString expected ++ ", got " ++ toString actual
  | .invalidStep index fault => "invalid adapter step " ++ toString index ++ ": " ++ fault.message
  | .layoutMismatch produced declared =>
    "adapter produces " ++ produced.text ++ ", but declares " ++ declared.text
  | .tensor => "tensor error"
  | .halt reason => reason.message

/-- Why a walk does not go past a step. -/
inductive StepError where
  | fault (reason : StepFault)
  | halt (reason : Halt)
  deriving DecidableEq, Repr

/-- The error at the step of this index. -/
def StepError.toAdapterError (index : Nat) : StepError → AdapterError
  | .fault reason => .invalidStep index reason
  | .halt reason => .halt reason

/-- The layout after a step. Any step that changes the values, other than a normalisation,
leaves them without a norm. The end of a range that keeps nothing is not looked at. -/
def Step.advance (l : Layout) : Step → Except StepError Layout
  | .identity => .ok l
  | .narrow start length =>
    if length = 0 then .error (.fault (.narrow start start l.width))
    else
      match sizeSum? start length with
      | none => .error (.halt .overflow)
      | some stop =>
        if l.width < stop then .error (.fault (.narrow start stop l.width))
        else .ok ⟨length, .none⟩
  | .chunkMean chunks =>
    if chunks = 0 ∨ l.width % chunks ≠ 0 then .error (.fault (.indivisible l.width chunks))
    else .ok ⟨l.width / chunks, .none⟩
  | .rmsNorm eps =>
    if eps.isPositive then .ok { l with norm := .rmsNorm } else .error (.fault (.eps eps))
  | .scale factor =>
    if !factor.isFinite then .error (.fault .factor)
    else if factor = .one then .ok l
    else .ok { l with norm := .none }

/-- Walks steps from a layout; an error carries the place of the step, counted from
`index`. -/
def walkSteps (index : Nat) (l : Layout) : List Step → Except AdapterError Layout
  | [] => .ok l
  | s :: rest =>
    match s.advance l with
    | .ok next => walkSteps (index + 1) next rest
    | .error e => .error (e.toAdapterError index)

/-- A declared way from an architecture's native hidden states to a shared layout. -/
structure Adapter where
  nativeWidth : UInt64
  nativeNorm : Norm
  steps : List Step
  shared : Layout
  deriving DecidableEq, Repr

namespace Adapter

/-- The adapter that passes states through. -/
def identity (width : UInt64) (norm : Norm) : Adapter := ⟨width, norm, [], ⟨width, norm⟩⟩

/-- The width left after folding the leading chunk means. -/
def foldChunks (width : UInt64) : List Step → UInt64
  | .identity :: rest => foldChunks width rest
  | .chunkMean chunks :: rest => if chunks = 0 then width else foldChunks (width / chunks) rest
  | _ => width

/-- The hidden size of one model layer as the adapter expects it. States that are
concatenated from several layers are folded by leading chunk means. -/
def layerWidth (a : Adapter) : UInt64 := foldChunks a.nativeWidth a.steps

/-- The layout that the steps produce. -/
def produced (a : Adapter) : Except AdapterError Layout :=
  if a.nativeWidth = 0 then .error (.invalidStep 0 .emptyNative)
  else walkSteps 0 ⟨a.nativeWidth, a.nativeNorm⟩ a.steps

/-- Checks that the steps produce the declared layout. -/
def validate (a : Adapter) : Except AdapterError Unit :=
  match a.produced with
  | .error e => .error e
  | .ok layout =>
    if layout = a.shared then .ok () else .error (.layoutMismatch layout a.shared)

end Adapter

/-! ## Writing -/

/-- A layout as JSON. -/
def Layout.toJson (l : Layout) : Json :=
  .object [("width", .int l.width.toNat), ("norm", .string l.norm.key)]

/-- A step as JSON. -/
def Step.toJson : Step → Json
  | .identity => .object [("op", .string "identity")]
  | .narrow start length =>
    .object [("op", .string "narrow"), ("start", .int start.toNat), ("len", .int length.toNat)]
  | .chunkMean chunks => .object [("op", .string "chunk_mean"), ("chunks", .int chunks.toNat)]
  | .rmsNorm eps => .object [("op", .string "rms_norm"), ("eps", .float eps)]
  | .scale factor => .object [("op", .string "scale"), ("factor", .float factor)]

/-- An adapter as JSON. -/
def Adapter.toJson (a : Adapter) : Json :=
  .object [("native_width", .int a.nativeWidth.toNat), ("native_norm", .string a.nativeNorm.key),
    ("steps", .array (a.steps.map Step.toJson)), ("shared", a.shared.toJson)]

/-! ## Reading -/

/-- The `eps` of a normalisation that gives none: a millionth. -/
def defaultEps : Binary64 := .ofRatio false 1 1000000

/-- Reads a norm. -/
def Norm.ofDocument? (n : Document.Notation) (d : Document) : Option Norm :=
  (d.case? n).bind fun key => Norm.all.find? (·.key == key)

/-- Reads a layout. -/
def Layout.ofDocument? (n : Document.Notation) (d : Document) : Option Layout := do
  let [width, norm] ← d.record? n ["width", "norm"] | none
  return {
    width := ← Document.required? Document.size? width
    norm := ← Document.required? (Norm.ofDocument? n) norm }

/-- A notation for parts that are read as a whole before they are looked at: nothing may
follow the last field. -/
def Document.Notation.buffered : Document.Notation := .json

/-- Reads the step called `op` from the rest of its document. -/
def Step.ofFields? (op : String) (d : Document) : Option Step :=
  match op with
  | "identity" =>
    match d with
    | .array (_ :: _) => none
    | _ => some .identity
  | "narrow" => do
    let [start, length] ← d.record? .buffered ["start", "len"] | none
    return .narrow (← Document.required? Document.size? start)
      (← Document.required? Document.size? length)
  | "chunk_mean" => do
    let [chunks] ← d.record? .buffered ["chunks"] | none
    return .chunkMean (← Document.required? Document.size? chunks)
  | "rms_norm" => do
    let [eps] ← d.record? .buffered ["eps"] | none
    return .rmsNorm (← Document.withDefault? defaultEps Document.real? eps)
  | "scale" => do
    let [factor] ← d.record? .buffered ["factor"] | none
    return .scale (← Document.required? Document.real? factor)
  | _ => none

/-- Reads a step: an object with the name of the step under `op`, or an array with the name
in front. Every part of it must have a value, also those that the step ignores. -/
def Step.ofDocument? (d : Document) : Option Step := do
  let _ ← d.toJson?
  match d with
  | .object members =>
    let [op] ← Document.fieldsByName? ["op"] members | none
    Step.ofFields? (← Document.required? Document.string? op)
      (.object (members.filter (·.1 ≠ "op")))
  | .array (op :: rest) => Step.ofFields? (← op.string?) (.array rest)
  | _ => none

/-- Reads an adapter. -/
def Adapter.ofDocument? (n : Document.Notation) (d : Document) : Option Adapter := do
  let [width, norm, steps, shared] ← d.record? n ["native_width", "native_norm", "steps", "shared"]
    | none
  return {
    nativeWidth := ← Document.required? Document.size? width
    nativeNorm := ← Document.required? (Norm.ofDocument? n) norm
    steps := ← Document.withDefault? [] (Document.list? Step.ofDocument?) steps
    shared := ← Document.required? (Layout.ofDocument? n) shared }

end ModelRegistry
