import ModelRegistry.Json.Reader
import ModelRegistry.Json.Writer

/-!
# ModelRegistry.Checkpoint

The `config.json` of a checkpoint. Only the two keys that every checkpoint shares
are typed, the architectures and the model type; everything else is kept as it
is for a configuration class to read.
-/

namespace ModelRegistry

/-- A checkpoint's `config.json`. -/
structure Checkpoint where
  /-- The architectures the checkpoint declares, the preferred one first. -/
  architectures : List String
  modelType : Option String
  /-- Every other key, sorted. -/
  fields : Json.Object
  deriving DecidableEq

namespace Checkpoint

/-- A checkpoint that declares nothing but architectures. -/
def ofArchitectures (architectures : List String) : Checkpoint := ⟨architectures, none, []⟩

/-- The checkpoint with a model type. -/
def withModelType (modelType : String) (c : Checkpoint) : Checkpoint :=
  { c with modelType := some modelType }

/-- The checkpoint with a value under a key. -/
def withField (key : String) (value : Json) (c : Checkpoint) : Checkpoint :=
  { c with fields := Members.insert key value c.fields }

/-- The first declared architecture. -/
def primaryArchitecture? (c : Checkpoint) : Option String := c.architectures.head?

/-- The raw value under a key that is not typed. -/
def field? (c : Checkpoint) (key : String) : Option Json := c.fields.lookup key

/-! ## Writing -/

/-- The members of the checkpoint as text writes them: the typed keys first. A field that
was built under the name of a typed key comes a second time. -/
def members (c : Checkpoint) : List (String × Json) :=
  ("architectures", .strings c.architectures) ::
    (match c.modelType with
      | some modelType => [("model_type", .string modelType)]
      | none => [])
    ++ c.fields

/-- The checkpoint as a JSON value, in which a later member replaces an earlier one. -/
def toJson (c : Checkpoint) : Json := .object (Members.ofList c.members)

/-- The checkpoint as text. -/
def text (c : Checkpoint) : String := (Json.object c.members).compact

/-! ## Reading -/

/-- The keys that are typed. -/
def typedKeys : List String := ["architectures", "model_type"]

/-- Reads a list of architectures; null stands for none. -/
def architectures? : Document → Option (List String)
  | .null => some []
  | d => d.list? Document.string?

/-- Reads a checkpoint. It is an object, no typed key comes twice, and every other part has
a value. -/
def ofDocument? : Document → Option Checkpoint
  | .object members => do
    let [architectures, modelType] ← Document.fieldsByName? typedKeys members | none
    return {
      architectures := ← Document.withDefault? [] architectures? architectures
      modelType := ← Document.withDefault? none (Document.optional? Document.string?) modelType
      fields := Members.ofList
        (← Document.membersToJson? (members.filter fun member => member.1 ∉ typedKeys)) }
  | _ => none

/-- Reads a checkpoint from a JSON value. -/
def ofJson? (v : Json) : Option Checkpoint := ofDocument? (Document.ofJson v)

/-- Reads a checkpoint from text. -/
def parse? (text : String) : Option Checkpoint := (Json.Reader.document? text).bind ofDocument?

end Checkpoint

end ModelRegistry
