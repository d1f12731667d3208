import ModelRegistry.Catalog
import ModelRegistry.Resolution
import ModelRegistry.Speculative.Pairing

/-!
# ModelRegistry.Verification

The check of all registered architectures at start-up. Each entry is checked by
itself: its implementation must be in the catalog, the class that resolution would
choose for it must exist and be well-formed, and what it declares about
speculative decoding must hold. All failures are collected, unless the program stops
at an adapter.
-/

namespace ModelRegistry

/-- What is wrong with an entry. -/
inductive FailureKind where
  | loader (reference : LoaderReference) (error : LocateError)
  | noConfigClass (sourceName : String)
  | malformedConfig (className : String) (error : ConfigClass.SchemaError)
  | source (sourceName : String) (error : SourceError)
  | speculative (error : AdapterError)
  deriving DecidableEq, Repr

/-- The text of the kind. -/
def FailureKind.message : FailureKind → String
  | .loader reference error =>
    "loader reference " ++ reference.text ++ " cannot be resolved: " ++ error.message
  | .noConfigClass sourceName =>
    "no configuration class in the explicit mapping, the " ++ sourceName
      ++ " source or a model_type alias"
  | .malformedConfig className error =>
    "configuration class " ++ className ++ " is malformed: " ++ error.message
  | .source sourceName error =>
    "configuration source " ++ sourceName ++ " failed: " ++ error.message
  | .speculative error => "speculative declaration is invalid: " ++ error.message

/-- A failure of an entry. -/
structure Failure where
  architecture : String
  kind : FailureKind
  deriving DecidableEq, Repr

/-- The text of the failure. -/
def Failure.message (f : Failure) : String := f.architecture ++ ": " ++ f.kind.message

/-- The outcome of a verification. -/
structure Report where
  checked : Nat
  failures : List Failure
  deriving DecidableEq, Repr

namespace Report

/-- Whether nothing failed. -/
def isOk (r : Report) : Bool := r.failures.isEmpty

/-- The architectures with failures, each once, in the order of their first failure. -/
def failedArchitectures (r : Report) : List String :=
  r.failures.foldl
    (fun ids f => if f.architecture ∈ ids then ids else ids ++ [f.architecture]) []

/-- The number of architectures without failures. -/
def passed (r : Report) : Nat := r.checked - r.failedArchitectures.length

/-- The text of the report: a line of counts, and a line for each failure. -/
def text (r : Report) : String :=
  "verified " ++ toString r.checked ++ " architectures: " ++ toString r.passed ++ " passed, "
    ++ toString r.failedArchitectures.length ++ " failed"
    ++ String.join (r.failures.map fun f => "\n  - " ++ f.message)

end Report

/-- What verification consults. -/
structure Verifier where
  catalog : Catalog
  mapping : ClassMapping
  source : ClassSource

namespace Verifier

/-- Checks that the implementation of an entry is in the catalog. -/
def checkLoader (v : Verifier) (a : Architecture) : List FailureKind :=
  match v.catalog.locate a.loader with
  | .ok _ => []
  | .error e => [.loader a.loader e]

/-- Checks the class that was selected for an entry. -/
def checkSelection (sourceName : String) (selection : Selection) : List FailureKind :=
  match selection.chosen, selection.sourceFailure? with
  | some (_, c), _ =>
    match c.value.checkWellFormed with
    | .ok () => []
    | .error e => [.malformedConfig c.value.name e]
  | none, some e => [.source sourceName e]
  | none, none => [.noConfigClass sourceName]

/-- Selects the class of an entry; only the model type declared with it counts. -/
def select (v : Verifier) (files : Files) (a : Architecture) : Selection :=
  v.mapping.select (v.source.answer files) a.id a.modelType

/-- Checks what an entry declares about speculative decoding, if it takes part. -/
def checkSpeculative (a : Architecture) : Except Halt (List FailureKind) :=
  match a.speculative with
  | none => .ok []
  | some s =>
    if s.role = .none then .ok []
    else
      match s.adapter.validate with
      | .ok () => .ok []
      | .error (.halt reason) => .error reason
      | .error e => .ok [.speculative e]

/-- The failures of an entry, in the order of the checks. -/
def verifyEntry (v : Verifier) (files : Files) (a : Architecture) :
    Except Halt (List Failure) := do
  let speculative ← checkSpeculative a
  return (v.checkLoader a ++ checkSelection v.source.name (v.select files a) ++ speculative).map
    fun kind => ⟨a.id, kind⟩

/-- The verifier after an entry was checked. -/
def afterEntry (v : Verifier) (files : Files) (a : Architecture) : Verifier where
  catalog := v.catalog.afterLookup
  mapping := v.mapping
  source := if v.mapping.contains a.id then v.source else v.source.afterLookup files a.id

/-- The failures of some entries, one after the other. -/
def verifyEntries (v : Verifier) (files : Files) :
    List Architecture → Except Halt (List Failure)
  | [] => .ok []
  | a :: rest => do
    let failures ← v.verifyEntry files a
    let others ← (v.afterEntry files a).verifyEntries files rest
    return failures ++ others

/-- The verifier after some entries were checked. -/
def afterEntries (v : Verifier) (files : Files) (entries : List Architecture) : Verifier :=
  entries.foldl (fun v a => v.afterEntry files a) v

/-- Checks every entry of a registry. -/
def report (v : Verifier) (files : Files) (registry : Registry) : Except Halt Report := do
  return ⟨registry.size, ← v.verifyEntries files registry.entries⟩

end Verifier

end ModelRegistry
