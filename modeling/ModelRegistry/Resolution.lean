import ModelRegistry.Architecture.Registry
import ModelRegistry.Checkpoint
import ModelRegistry.Config.Selection

/-!
# ModelRegistry.Resolution

From a checkpoint to its resolved configuration. The architecture is the first of
those the checkpoint declares that is registered, or the first declared if none
is. Its class is chosen by `ClassMapping.select` and then decides alone: if it
does not fit the checkpoint, no other tier is asked.
-/

namespace ModelRegistry

/-- Why a checkpoint has no configuration. -/
inductive ResolutionFault where
  | missingArchitecture
  | unresolvedArchitecture
  | invalidConfig (className : String) (violation : Violation)
  deriving DecidableEq, Repr

/-- The text of the fault. -/
def ResolutionFault.message : ResolutionFault → String
  | .missingArchitecture => "checkpoint declares no architecture"
  | .unresolvedArchitecture => "unresolved architecture"
  | .invalidConfig className v => "invalid configuration for " ++ className ++ ": " ++ v.message

/-- A failed resolution: for which architecture, why, and the tiers that were asked. -/
structure ResolutionError where
  architecture : String
  fault : ResolutionFault
  attempts : List Attempt
  deriving DecidableEq, Repr

namespace ResolutionError

/-- The text of the error. -/
def message (e : ResolutionError) : String :=
  "cannot resolve configuration for " ++ e.architecture ++ ": " ++ e.fault.message ++ " ["
    ++ "; ".intercalate (e.attempts.map Attempt.message) ++ "]"

/-- The error of a checkpoint that declares no architecture; its model type, if it has one,
stands for the architecture. -/
def missing (c : Checkpoint) : ResolutionError :=
  ⟨c.modelType.getD "<unknown>", .missingArchitecture, []⟩

end ResolutionError

/-- What resolution consults: the registered architectures, the mapped classes and the
external source. -/
structure Resolver where
  registry : Registry
  mapping : ClassMapping
  source : ClassSource

namespace Resolver

/-- The architecture for which a checkpoint is resolved. -/
def architecture? (r : Resolver) (c : Checkpoint) : Option String :=
  match r.registry.resolveFirst c.architectures with
  | .ok a => some a.id
  | .error _ => c.primaryArchitecture?

/-- The model type that counts for a checkpoint: the one declared with the architecture, since
that is what was verified, else the checkpoint's own. -/
def modelType? (r : Resolver) (architecture : String) (c : Checkpoint) : Option String :=
  ((r.registry.find? architecture).bind (·.modelType)).or c.modelType

/-- Reads a checkpoint against the selected class. -/
def instantiate (architecture : String) (selection : Selection) (c : Checkpoint) :
    Except ResolutionError Descriptor :=
  match selection.chosen with
  | none => .error ⟨architecture, .unresolvedArchitecture, selection.attempts⟩
  | some (strategy, configClass) =>
    match Config.instantiate ⟨architecture, strategy⟩ none c.fields configClass.value with
    | .ok d => .ok d
    | .error v =>
      let name := configClass.value.name
      .error ⟨architecture, .invalidConfig name v,
        selection.attempts ++ [⟨strategy, .rejected name v⟩]⟩

/-- Resolves a checkpoint. -/
def resolve (r : Resolver) (files : Files) (c : Checkpoint) : Except ResolutionError Descriptor :=
  match r.architecture? c with
  | none => .error (.missing c)
  | some architecture =>
    instantiate architecture
      (r.mapping.select (r.source.answer files) architecture (r.modelType? architecture c)) c

/-- The resolver after the class of an architecture was chosen: the source remembers that it
was asked, which it is only about architectures that are not mapped. -/
def afterSelect (r : Resolver) (files : Files) (architecture : String) : Resolver :=
  if r.mapping.contains architecture then r
  else { r with source := r.source.afterLookup files architecture }

/-- The resolver after a checkpoint was resolved. -/
def afterResolve (r : Resolver) (files : Files) (c : Checkpoint) : Resolver :=
  match r.architecture? c with
  | none => r
  | some architecture => r.afterSelect files architecture

/-- The resolver as diagnostics show it. -/
def summary (r : Resolver) : String :=
  "ConfigResolver \x7b explicit_classes: " ++ toString r.mapping.size ++ ", source: "
    ++ Text.quoted r.source.name ++ " \x7d"

end Resolver

end ModelRegistry
