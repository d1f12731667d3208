import ModelRegistry.Config.Class
import ModelRegistry.Config.Descriptor

/-!
# ModelRegistry.Config.Instantiate

Reading a raw object against a configuration class. Either every level fits and
the result is a whole descriptor, or the first misfit is reported with the path
of slots that leads to it; nothing partial is returned.

The order is: the fields in the order of declaration, then the slots in theirs,
each read completely before the next.
-/

namespace ModelRegistry

/-- What was found where a value of another type was expected. -/
inductive Found where
  /-- A raw value of this kind. -/
  | value (kind : Json.Kind)
  /-- The default that the class itself declares. -/
  | default
  deriving DecidableEq, Repr

/-- The text for what was found. -/
def Found.name : Found → String
  | .value kind => kind.name
  | .default => "default"

/-- How a raw object misses a class. -/
inductive ViolationKind where
  | missingField
  | typeMismatch (expected : FieldType) (found : Found)
  | missingNested
  | notAnObject (found : Json.Kind)
  deriving DecidableEq, Repr

/-- The text of the kind. -/
def ViolationKind.message : ViolationKind → String
  | .missingField => "missing required field"
  | .typeMismatch expected found => "expected " ++ expected.name ++ ", found " ++ found.name
  | .missingNested => "missing required sub-config"
  | .notAnObject found => "sub-config must be an object, found " ++ found.name

/-- A misfit: the subtree slots from the root, the name of the field or slot at fault, and
what is wrong there. -/
structure Violation where
  slots : List String
  name : String
  kind : ViolationKind
  deriving DecidableEq, Repr

namespace Violation

/-- The slots and the name, joined by dots. -/
def path (v : Violation) : String := ".".intercalate (v.slots ++ [v.name])

/-- The text of the violation. -/
def message (v : Violation) : String := v.path ++ ": " ++ v.kind.message

/-- The violation as seen from the parent in whose slot it lies. -/
def inSlot (slot : String) (v : Violation) : Violation := { v with slots := slot :: v.slots }

end Violation

namespace Config

/-- The value under a key, where null counts as absent. -/
def present? (raw : Json.Object) (key : String) : Option Json :=
  (raw.lookup key).filter (!·.isNull)

/-- Reads one field: the value that is present, else the default, else nothing if the field
is optional. -/
def readField (raw : Json.Object) (spec : FieldSpec) : Except Violation (Option FieldValue) :=
  let typed (v : Json) (found : Found) :=
    match FieldValue.ofJson? spec.type v with
    | some value => .ok (some value)
    | none => .error ⟨[], spec.name, .typeMismatch spec.type found⟩
  match present? raw spec.name, spec.default with
  | some v, _ => typed v (.value v.kind)
  | none, some v => typed v .default
  | none, none => if spec.required then .error ⟨[], spec.name, .missingField⟩ else .ok none

/-- Reads the fields in order into the fields already read. -/
def readFields (raw : Json.Object) (done : Members FieldValue) :
    List FieldSpec → Except Violation (Members FieldValue)
  | [] => .ok done
  | spec :: rest =>
    match readField raw spec with
    | .error v => .error v
    | .ok (some value) => readFields raw (Members.insert spec.name value done) rest
    | .ok none => readFields raw done rest

/-- The object that a subtree slot reads, if there is one. -/
def subtree? (raw : Json.Object) (slot : String) (required : Bool) :
    Except Violation (Option Json.Object) :=
  match present? raw slot with
  | none => if required then .error ⟨[], slot, .missingNested⟩ else .ok none
  | some (.object members) => .ok (some members)
  | some other => .error ⟨[], slot, .notAnObject other.kind⟩

/-- The members whose keys are not consumed. -/
def unconsumed (consumed : List String) (raw : Json.Object) : Json.Object :=
  raw.filter fun member => !consumed.contains member.1

mutual

/-- Reads a raw object against a class, as the descriptor in a slot. -/
def instantiate (provenance : Provenance) (slot : Option String) (raw : Json.Object) :
    ConfigClass → Except Violation Descriptor
  | c@(.mk name _ fields slots) =>
    match readFields raw [] fields with
    | .error v => .error v
    | .ok values =>
      match instantiateSlots provenance raw slots with
      | .error v => .error v
      | .ok nested => .ok (.mk provenance name slot values nested (unconsumed c.consumedKeys raw))

/-- Reads the slots in order. A flattened slot reads the object itself, and a violation in it
keeps its path; an empty optional slot gives no descriptor. -/
def instantiateSlots (provenance : Provenance) (raw : Json.Object) :
    List (Slot ConfigClass) → Except Violation (List Descriptor)
  | [] => .ok []
  | ⟨name, child, required, flattened⟩ :: rest =>
    let read : Except Violation (Option Descriptor) :=
      if flattened then
        match instantiate provenance (some name) raw child with
        | .ok d => .ok (some d)
        | .error v => .error v
      else
        match subtree? raw name required with
        | .error v => .error v
        | .ok none => .ok none
        | .ok (some members) =>
          match instantiate provenance (some name) members child with
          | .ok d => .ok (some d)
          | .error v => .error (v.inSlot name)
    match read with
    | .error v => .error v
    | .ok d? =>
      match instantiateSlots provenance raw rest with
      | .error v => .error v
      | .ok nested => .ok (d?.toList ++ nested)

end

end Config

end ModelRegistry
