import ModelRegistry.Architecture.Registry

/-!
# ModelRegistry.Architecture.Declaration

Declarations of architectures, as rows of tables. A row becomes an entry of the
registry when it names at least one modality; a table is registered row by row
and stops at its first defect.
-/

namespace ModelRegistry

/-- A row of a declaration table. -/
structure Declaration where
  id : String
  modalities : List Modality
  loader : LoaderReference
  modelType : Option String
  speculative : Option SpeculativeDeclaration
  deriving DecidableEq, Repr

/-- A table of declarations. -/
structure DeclarationTable where
  architectures : List Declaration
  deriving DecidableEq, Repr

/-- Why a table could not be registered. -/
inductive DeclarationError where
  /-- The row with this id names no modality. -/
  | noModalities (id : String)
  | registry (error : RegistryError)
  deriving DecidableEq, Repr

/-- The text of the error. -/
def DeclarationError.message : DeclarationError → String
  | .noModalities id => "architecture " ++ id ++ " declares no modalities"
  | .registry e => e.message

namespace Declaration

/-- The registry entry of a row. -/
def toEntry (d : Declaration) : Except DeclarationError Architecture :=
  if d.modalities.isEmpty then .error (.noModalities d.id)
  else .ok ⟨d.id, Modality.set d.modalities, d.loader, d.modelType, d.speculative⟩

/-- Registers a row. -/
def register (d : Declaration) (r : Registry) : Except DeclarationError Registry :=
  match d.toEntry with
  | .error e => .error e
  | .ok entry =>
    match r.register entry with
    | .ok r => .ok r
    | .error e => .error (.registry e)

end Declaration

namespace Registry

/-- What is left of registering some rows: the registry as far as it came, and the number of
rows or the first defect. -/
structure Registration where
  registry : Registry
  outcome : Except DeclarationError Nat

/-- Registers rows in order, counting from `count`, and stops at the first that fails. -/
def registerFrom (count : Nat) (r : Registry) : List Declaration → Registration
  | [] => ⟨r, .ok count⟩
  | d :: rest =>
    match d.register r with
    | .ok next => registerFrom (count + 1) next rest
    | .error e => ⟨r, .error e⟩

/-- Registers rows in order and stops at the first that fails. -/
def registerAll (declarations : List Declaration) (r : Registry) : Registration :=
  registerFrom 0 r declarations

end Registry

/-! ## Writing -/

/-- A row as JSON, without what it leaves out. -/
def Declaration.toJson (d : Declaration) : Json :=
  .object <|
    [("id", .string d.id), ("modalities", .strings (d.modalities.map (·.tag))),
      ("loader", .string d.loader.text)]
    ++ (match d.modelType with
      | some modelType => [("model_type", .string modelType)]
      | none => [])
    ++ (match d.speculative with
      | some s => [("speculative", s.toJson)]
      | none => [])

/-- An entry as JSON; null stands where it says nothing. -/
def Architecture.toJson (a : Architecture) : Json :=
  .object [("id", .string a.id), ("modalities", .strings (a.modalities.map (·.tag))),
    ("loader", .string a.loader.text),
    ("model_type", (a.modelType.map Json.string).getD .null),
    ("speculative", (a.speculative.map SpeculativeDeclaration.toJson).getD .null)]

/-- A table as JSON. -/
def DeclarationTable.toJson (t : DeclarationTable) : Json :=
  .object [("architecture", .array (t.architectures.map Declaration.toJson))]

/-! ## Reading -/

/-- Reads the tag of a modality, in its own spelling. -/
def Modality.ofDocument? (n : Document.Notation) (d : Document) : Option Modality :=
  (d.case? n).bind Modality.ofTag?

/-- Reads a loader reference from a string. -/
def LoaderReference.ofDocument? (d : Document) : Option LoaderReference :=
  d.string?.bind fun s =>
    match LoaderReference.parse s with
    | .ok r => some r
    | .error _ => none

/-- Reads a row. A row that gives no modalities takes text; one that gives an empty list
keeps it. -/
def Declaration.ofDocument? (n : Document.Notation) (d : Document) : Option Declaration := do
  let [id, modalities, loader, modelType, speculative] ←
    d.record? n ["id", "modalities", "loader", "model_type", "speculative"] | none
  return {
    id := ← Document.required? Document.string? id
    modalities := ←
      Document.withDefault? [.text] (Document.list? (Modality.ofDocument? n)) modalities
    loader := ← Document.required? LoaderReference.ofDocument? loader
    modelType := ← Document.withDefault? none (Document.optional? Document.string?) modelType
    speculative := ←
      Document.withDefault? none (Document.optional? (SpeculativeDeclaration.ofDocument? n))
        speculative }

/-- Reads a table. -/
def DeclarationTable.ofDocument? (n : Document.Notation) (d : Document) :
    Option DeclarationTable := do
  let [architectures] ← d.record? n ["architecture"] | none
  return ⟨← Document.withDefault? [] (Document.list? (Declaration.ofDocument? n)) architectures⟩

end ModelRegistry
