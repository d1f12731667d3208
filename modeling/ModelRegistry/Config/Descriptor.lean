import ModelRegistry.Config.FieldValue

/-!
# ModelRegistry.Config.Descriptor

Resolved configurations: what a configuration class makes of a checkpoint. A
descriptor holds the typed fields, the descriptors nested in its slots, and the
keys of the raw object that no part of the class looked at.
-/

namespace ModelRegistry

/-- The tier that chose the class of a configuration. -/
inductive Strategy where
  /-- The class mapped to the architecture. -/
  | explicitMapping
  /-- The class that the external source publishes for the architecture. -/
  | autoDetect
  /-- The mapped class that answers to the model type. -/
  | modelTypeAlias
  deriving DecidableEq, Repr

/-- The name of a tier. -/
def Strategy.name : Strategy → String
  | .explicitMapping => "explicit-mapping"
  | .autoDetect => "auto-detect"
  | .modelTypeAlias => "model-type-alias"

/-- What a configuration was resolved for, and how. -/
structure Provenance where
  architecture : String
  strategy : Strategy
  deriving DecidableEq, Repr

/-- A resolved configuration. -/
inductive Descriptor where
  | mk (provenance : Provenance) (className : String) (slot : Option String)
      (fields : List (String × FieldValue)) (nested : List Descriptor)
      (extra : List (String × Json))

namespace Descriptor

/-- The architecture and tier. -/
def provenance : Descriptor → Provenance
  | .mk provenance _ _ _ _ _ => provenance

/-- The name of the class. -/
def className : Descriptor → String
  | .mk _ className _ _ _ _ => className

/-- The slot of the parent in which the descriptor stands; none at the top. -/
def slot : Descriptor → Option String
  | .mk _ _ slot _ _ _ => slot

/-- The typed fields, sorted by name. -/
def fields : Descriptor → Members FieldValue
  | .mk _ _ _ fields _ _ => fields

/-- The nested descriptors, in the order of the slots. -/
def nested : Descriptor → List Descriptor
  | .mk _ _ _ _ nested _ => nested

/-- The keys that the class does not look at, with their raw values. -/
def extra : Descriptor → Json.Object
  | .mk _ _ _ _ _ extra => extra

/-- The architecture for which the configuration was resolved. -/
def architecture (d : Descriptor) : String := d.provenance.architecture

/-- The value of a field. -/
def get? (d : Descriptor) (name : String) : Option FieldValue := d.fields.lookup name

/-- The integer in a field. -/
def getInt? (d : Descriptor) (name : String) : Option Int := (d.get? name).bind FieldValue.int?

/-- The number in a field, as a float. -/
def getFloat? (d : Descriptor) (name : String) : Option Number.Binary64 :=
  (d.get? name).bind FieldValue.float?

/-- An integer as a size; a negative one is none. -/
def sizeOf? (n : Int) : Option Nat := if 0 ≤ n then some n.toNat else none

/-- The text in a field. -/
def getString? (d : Descriptor) (name : String) : Option String :=
  (d.get? name).bind FieldValue.string?

/-- The descriptor in a slot. -/
def nestedAt? (d : Descriptor) (slot : String) : Option Descriptor :=
  d.nested.find? (·.slot == some slot)

mutual

/-- The descriptor and all nested in it, each before those nested in it. -/
def walk : Descriptor → List Descriptor
  | d@(.mk _ _ _ _ nested _) => d :: walkAll nested

/-- The walks of a list of descriptors, one after the other. -/
def walkAll : List Descriptor → List Descriptor
  | [] => []
  | d :: rest => walk d ++ walkAll rest

end

mutual

/-- The descriptor as JSON; an empty `extra` is left out. -/
def toJson : Descriptor → Json
  | .mk provenance className slot fields nested extra =>
    .object <|
      [("architecture_id", .string provenance.architecture), ("class_name", .string className),
        ("strategy", .string provenance.strategy.name)]
      ++ (match slot with
        | some name => [("slot", .string name)]
        | none => [])
      ++ [("fields", .object (fields.map fun field => (field.1, field.2.toJson))),
        ("nested_configs", .array (listToJson nested))]
      ++ (if extra.isEmpty then [] else [("extra", .object extra)])

/-- A list of descriptors as JSON values. -/
def listToJson : List Descriptor → List Json
  | [] => []
  | d :: rest => toJson d :: listToJson rest

end

end Descriptor

end ModelRegistry
