import ModelRegistry.Config.Instantiate
import ModelRegistry.Config.Mapping
import ModelRegistry.Config.Source

/-!
# ModelRegistry.Config.Selection

The choice of a configuration class for an architecture. Three tiers are asked in
order: the class mapped to the architecture, the class that the external source
publishes for it, and the mapped class that answers to a model type. The first
tier that has a class decides; the later ones are not asked.
-/

namespace ModelRegistry

/-- What a tier came to that did not decide. -/
inductive AttemptOutcome where
  | noClass
  | sourceFailed (error : SourceError)
  /-- The tier had a class, and the class does not fit the checkpoint. -/
  | rejected (className : String) (violation : Violation)
  deriving DecidableEq, Repr

/-- A tier that was asked, with what came of it. -/
structure Attempt where
  strategy : Strategy
  outcome : AttemptOutcome
  deriving DecidableEq, Repr

/-- The text of an attempt. -/
def Attempt.message (a : Attempt) : String :=
  a.strategy.name ++ ": " ++
    match a.outcome with
    | .noClass => "no configuration class"
    | .sourceFailed e => e.message
    | .rejected className v => className ++ " rejected " ++ v.message

/-- The deciding tier with its class, if there is one, and the tiers asked before it. -/
structure Selection where
  chosen : Option (Strategy × Shared ConfigClass)
  attempts : List Attempt

namespace Selection

/-- How the source failed, if it was asked and failed. -/
def sourceFailure? (s : Selection) : Option SourceError :=
  s.attempts.findSome? fun a =>
    match a.outcome with
    | .sourceFailed e => some e
    | _ => none

/-- Asks the last tier, if a model type is known. -/
def ofModelType (mapping : ClassMapping) (modelType : Option String) (before : List Attempt) :
    Selection :=
  match modelType with
  | none => ⟨none, before⟩
  | some modelType =>
    match mapping.alias? modelType with
    | some c => ⟨some (.modelTypeAlias, c), before⟩
    | none => ⟨none, before ++ [⟨.modelTypeAlias, .noClass⟩]⟩

end Selection

/-- Chooses the class for an architecture. A source that fails is noted, and the search goes
on. -/
def ClassMapping.select (mapping : ClassMapping)
    (source : String → SourceAnswer (Shared ConfigClass)) (architecture : String)
    (modelType : Option String) : Selection :=
  match mapping.get? architecture with
  | some c => ⟨some (.explicitMapping, c), []⟩
  | none =>
    let unmapped : Attempt := ⟨.explicitMapping, .noClass⟩
    match source architecture with
    | .ok (some c) => ⟨some (.autoDetect, c), [unmapped]⟩
    | .ok none => .ofModelType mapping modelType [unmapped, ⟨.autoDetect, .noClass⟩]
    | .error e => .ofModelType mapping modelType [unmapped, ⟨.autoDetect, .sourceFailed e⟩]

end ModelRegistry
