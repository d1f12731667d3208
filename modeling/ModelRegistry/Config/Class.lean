import ModelRegistry.Config.FieldValue
import ModelRegistry.Text.Blank
import ModelRegistry.Text.Quoted

/-!
# ModelRegistry.Config.Class

Configuration classes: the shape of an architecture's configuration, as data. A
class has named fields, each with a type, and slots for configurations nested in
its own. A *subtree* slot reads its child from the object under the slot's name;
a *flattened* slot reads it from the very object that the parent reads, so that a
flat checkpoint can be split into nested configurations.

`consumedKeys` says which keys of a raw object a class looks at, and
`checkWellFormed` what can be wrong with a class before any checkpoint is seen.
-/

namespace ModelRegistry

/-- A field of a configuration class. -/
structure FieldSpec where
  name : String
  type : FieldType
  required : Bool
  default : Option Json
  deriving DecidableEq

namespace FieldSpec

/-- A field that a checkpoint must have. -/
def mandatory (name : String) (type : FieldType) : FieldSpec := ⟨name, type, true, none⟩

/-- A field that a checkpoint may leave out. -/
def optional (name : String) (type : FieldType) : FieldSpec := ⟨name, type, false, none⟩

/-- The field with a value for checkpoints that leave it out. -/
def withDefault (spec : FieldSpec) (value : Json) : FieldSpec :=
  { spec with default := some value }

end FieldSpec

/-- A place in a configuration for one nested in it. -/
structure Slot (κ : Type) where
  name : String
  child : κ
  required : Bool
  /-- Whether the child reads the parent's own object. -/
  flattened : Bool

namespace Slot

variable {κ : Type}

/-- A required slot that reads the object under its name. -/
def subtree (name : String) (child : κ) : Slot κ := ⟨name, child, true, false⟩

/-- A required slot that reads the parent's object. -/
def flatten (name : String) (child : κ) : Slot κ := ⟨name, child, true, true⟩

/-- The slot, allowed to be empty. -/
def optional (slot : Slot κ) : Slot κ := { slot with required := false }

end Slot

/-- A configuration class. -/
inductive ConfigClass where
  | mk (name : String) (modelTypes : List String) (fields : List FieldSpec)
      (slots : List (Slot ConfigClass))

namespace ConfigClass

/-- The name of the class. -/
def name : ConfigClass → String
  | .mk name _ _ _ => name

/-- The `model_type` values that the class answers to, besides the architecture it is mapped
to. -/
def modelTypes : ConfigClass → List String
  | .mk _ modelTypes _ _ => modelTypes

/-- The fields, in the order of declaration. -/
def fields : ConfigClass → List FieldSpec
  | .mk _ _ fields _ => fields

/-- The slots, in the order of declaration. -/
def slots : ConfigClass → List (Slot ConfigClass)
  | .mk _ _ _ slots => slots

/-! ## Building classes -/

/-- A class without fields. -/
def empty (name : String) : ConfigClass := .mk name [] [] []

/-- The class under another name. -/
def withName (name : String) : ConfigClass → ConfigClass
  | .mk _ modelTypes fields slots => .mk name modelTypes fields slots

/-- The class answering to one more `model_type`; one it has already is not repeated. -/
def withModelType (modelType : String) : ConfigClass → ConfigClass
  | .mk name modelTypes fields slots =>
    .mk name (if modelType ∈ modelTypes then modelTypes else modelTypes ++ [modelType]) fields slots

/-- The class with more fields after its own. -/
def withFields (specs : List FieldSpec) : ConfigClass → ConfigClass
  | .mk name modelTypes fields slots => .mk name modelTypes (fields ++ specs) slots

/-- The class with one more field. -/
def withField (spec : FieldSpec) (c : ConfigClass) : ConfigClass := c.withFields [spec]

/-- The class with one more slot. -/
def withSlot (slot : Slot ConfigClass) : ConfigClass → ConfigClass
  | .mk name modelTypes fields slots => .mk name modelTypes fields (slots ++ [slot])

/-- The first field of this name. -/
def field? (c : ConfigClass) (name : String) : Option FieldSpec :=
  c.fields.find? (·.name == name)

/-! ## Keys -/

mutual

/-- The keys of a raw object that the class looks at: its fields, its subtree slots, and
whatever its flattened children look at. -/
def consumedKeys : ConfigClass → List String
  | .mk _ _ fields slots => fields.map (·.name) ++ slotKeys slots

/-- The keys that a list of slots looks at. -/
def slotKeys : List (Slot ConfigClass) → List String
  | [] => []
  | ⟨name, child, _, flattened⟩ :: rest =>
    (if flattened then consumedKeys child else [name]) ++ slotKeys rest

end

/-! ## Well-formedness -/

/-- What is wrong with a class, by itself. -/
inductive SchemaError where
  | emptyName
  | duplicateName (className name : String)
  | requiredWithDefault (className field : String)
  | defaultTypeMismatch (className field : String) (expected : FieldType)
  | nested (className slot : String) (source : SchemaError)
  deriving DecidableEq, Repr

/-- The text of the error. -/
def SchemaError.message : SchemaError → String
  | .emptyName => "configuration class has an empty name"
  | .duplicateName c name => c ++ ": duplicate field or slot " ++ Text.quoted name
  | .requiredWithDefault c field =>
    c ++ ": required field " ++ Text.quoted field ++ " must not declare a default"
  | .defaultTypeMismatch c field expected =>
    c ++ ": default for " ++ Text.quoted field ++ " is not a valid " ++ expected.name
  | .nested c slot source =>
    c ++ ": nested slot " ++ Text.quoted slot ++ ": " ++ source.message

/-- The first name that stands in the list a second time. -/
def firstRepeated? (seen : List String) : List String → Option String
  | [] => none
  | name :: rest =>
    if name ∈ seen then some name else firstRepeated? (name :: seen) rest

/-- Checks the default of a field: a required field has none, and a default is a value of the
field's type. -/
def checkDefault (className : String) (spec : FieldSpec) : Except SchemaError Unit :=
  match spec.default with
  | none => .ok ()
  | some value =>
    if spec.required then .error (.requiredWithDefault className spec.name)
    else if (FieldValue.ofJson? spec.type value).isNone then
      .error (.defaultTypeMismatch className spec.name spec.type)
    else .ok ()

/-- Checks the defaults of the fields in order. -/
def checkDefaults (className : String) : List FieldSpec → Except SchemaError Unit
  | [] => .ok ()
  | spec :: rest =>
    match checkDefault className spec with
    | .ok () => checkDefaults className rest
    | .error e => .error e

mutual

/-- Checks a class: its name, that no field or slot repeats a name, the defaults, and then
the classes of its slots. -/
def checkWellFormed : ConfigClass → Except SchemaError Unit
  | .mk name _ fields slots =>
    if (Text.trimChars name.toList).isEmpty then .error .emptyName
    else
      match firstRepeated? [] (fields.map (·.name) ++ slots.map (·.name)) with
      | some repeated => .error (.duplicateName name repeated)
      | none =>
        match checkDefaults name fields with
        | .error e => .error e
        | .ok () => checkSlots name slots

/-- Checks the classes of the slots in order. -/
def checkSlots (className : String) : List (Slot ConfigClass) → Except SchemaError Unit
  | [] => .ok ()
  | ⟨name, child, _, _⟩ :: rest =>
    match checkWellFormed child with
    | .error e => .error (.nested className name e)
    | .ok () => checkSlots className rest

end

end ConfigClass

end ModelRegistry
