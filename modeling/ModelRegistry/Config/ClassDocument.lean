import ModelRegistry.Config.Class
import ModelRegistry.Document

/-!
# ModelRegistry.Config.ClassDocument

Configuration classes as JSON, the form in which schema files publish them:

```
{"name": …, "model_types": […], "fields": [{"name", "type", "required", "default"}, …],
 "nested": [{"slot", "class", "required", "flattened"}, …]}
```

Writing leaves out an empty list of model types and an absent default. Reading
takes everything but the names, types and child classes as optional, allows a
single model type under `model_type`, and takes a null default for none.
-/

namespace ModelRegistry

/-! ## Writing -/

/-- A field as JSON. -/
def FieldSpec.toJson (spec : FieldSpec) : Json :=
  .object <|
    [("name", .string spec.name), ("type", .string spec.type.key),
      ("required", .bool spec.required)]
      ++ (match spec.default with
        | some v => [("default", v)]
        | none => [])

namespace ConfigClass

mutual

/-- A class as JSON. -/
def toJson : ConfigClass → Json
  | .mk name modelTypes fields slots =>
    .object <|
      ("name", .string name) ::
        (if modelTypes.isEmpty then [] else [("model_types", .strings modelTypes)])
        ++ [("fields", .array (fields.map FieldSpec.toJson)),
          ("nested", .array (slotsToJson slots))]

/-- A list of slots as JSON values. -/
def slotsToJson : List (Slot ConfigClass) → List Json
  | [] => []
  | ⟨name, child, required, flattened⟩ :: rest =>
    .object [("slot", .string name), ("class", toJson child), ("required", .bool required),
      ("flattened", .bool flattened)] :: slotsToJson rest

end

end ConfigClass

/-! ## Reading -/

/-- Reads the type of a field. -/
def FieldType.ofDocument? (d : Document) : Option FieldType :=
  (d.case? .json).bind FieldType.ofKey?

/-- Reads a field. -/
def FieldSpec.ofDocument? (d : Document) : Option FieldSpec := do
  let [name, type, required, default] ← d.record? .json ["name", "type", "required", "default"]
    | none
  return {
    name := ← Document.required? Document.string? name
    type := ← Document.required? FieldType.ofDocument? type
    required := ← Document.withDefault? false Document.bool? required
    default := ← Document.withDefault? none (Document.optional? Document.toJson?) default }

namespace ConfigClass

/-- Reads model types: a list, a single one, or null for none. -/
def modelTypes? : Document → Option (List String)
  | .null => some []
  | .string s => some [s]
  | d => d.list? Document.string?

/-- The other name under which an object may give the model types. -/
def canonicalKey (key : String) : String := if key = "model_type" then "model_types" else key

/-- The names of the fields of a class as JSON, apart from the slots. -/
def plainFields : List String := ["name", "model_types", "fields"]

/-- Reads the fields of a class that are not slots. -/
def plain? (fields : List (Option Document)) (slots : List (Slot ConfigClass)) :
    Option ConfigClass := do
  let [name, modelTypes, specs] := fields | none
  return .mk
    (← Document.required? Document.string? name)
    (← Document.withDefault? [] modelTypes? modelTypes)
    (← Document.withDefault? [] (Document.list? FieldSpec.ofDocument?) specs)
    slots

/-- The names of the fields of a slot as JSON, apart from the class. -/
def slotFields : List String := ["slot", "required", "flattened"]

/-- Reads the fields of a slot that are not its class. -/
def slotOf? (fields : List (Option Document)) (child : ConfigClass) :
    Option (Slot ConfigClass) := do
  let [name, required, flattened] := fields | none
  return {
    name := ← Document.required? Document.string? name
    child
    required := ← Document.withDefault? false Document.bool? required
    flattened := ← Document.withDefault? false Document.bool? flattened }

mutual

/-- Reads a class. -/
def ofDocument? : Document → Option ConfigClass
  | .object members => do
    let fields ← Document.fieldsByName? plainFields
      (members.map fun member => (canonicalKey member.1, member.2))
    plain? fields (← slotsMember? members)
  | .array [name] => plain? [some name, none, none] []
  | .array [name, modelTypes] => plain? [some name, some modelTypes, none] []
  | .array [name, modelTypes, fields] => plain? [some name, some modelTypes, some fields] []
  | .array [name, modelTypes, fields, slots] => do
    plain? [some name, some modelTypes, some fields] (← slots? slots)
  | _ => none

/-- Reads the slots among the members of a class, none if they are not given. -/
def slotsMember? : List (String × Document) → Option (List (Slot ConfigClass))
  | [] => some []
  | (key, d) :: rest =>
    if key = "nested" then
      if rest.any (·.1 == "nested") then none else slots? d
    else slotsMember? rest

/-- Reads a list of slots. -/
def slots? : Document → Option (List (Slot ConfigClass))
  | .array items => slotItems? items
  | _ => none

/-- Reads the items of a list of slots. -/
def slotItems? : List Document → Option (List (Slot ConfigClass))
  | [] => some []
  | d :: rest => do return (← slot? d) :: (← slotItems? rest)

/-- Reads a slot. -/
def slot? : Document → Option (Slot ConfigClass)
  | .object members => do
    slotOf? (← Document.fieldsByName? slotFields members) (← classMember? members)
  | .array [name, child] => do slotOf? [some name, none, none] (← ofDocument? child)
  | .array [name, child, required] => do
    slotOf? [some name, some required, none] (← ofDocument? child)
  | .array [name, child, required, flattened] => do
    slotOf? [some name, some required, some flattened] (← ofDocument? child)
  | _ => none

/-- Reads the class among the members of a slot. -/
def classMember? : List (String × Document) → Option ConfigClass
  | [] => none
  | (key, d) :: rest =>
    if key = "class" then
      if rest.any (·.1 == "class") then none else ofDocument? d
    else classMember? rest

end

/-- Reads a class from a JSON value. -/
def ofJson? (v : Json) : Option ConfigClass := ofDocument? (Document.ofJson v)

end ConfigClass

end ModelRegistry
