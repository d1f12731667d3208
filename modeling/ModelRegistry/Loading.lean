import ModelRegistry.Catalog
import ModelRegistry.Fetching
import ModelRegistry.Resolution

/-!
# ModelRegistry.Loading

From a locator to a resolved model: the checkpoint is fetched, its architecture
found in the registry, and its configuration resolved.
-/

namespace ModelRegistry

/-- Why a model could not be loaded. -/
inductive LoadError where
  | fetch (error : FetchError)
  | unregistered (error : RegistryError)
  | resolution (error : ResolutionError)
  | implementation (architecture : String) (error : LocateError)
  deriving DecidableEq, Repr

/-- The text of the error. -/
def LoadError.message : LoadError → String
  | .fetch e => e.message
  | .unregistered e => e.message
  | .resolution e => e.message
  | .implementation architecture e =>
    "implementation for " ++ architecture ++ " unavailable: " ++ e.message

/-- A model whose architecture and configuration are known. -/
structure ResolvedModel where
  locator : String
  entry : Architecture
  checkpoint : Checkpoint
  config : Descriptor

namespace Resolver

/-- The registered architecture of a checkpoint. -/
def entryOf (r : Resolver) (c : Checkpoint) : Except LoadError Architecture :=
  if c.architectures.isEmpty then .error (.resolution (.missing c))
  else
    match r.registry.resolveFirst c.architectures with
    | .ok a => .ok a
    | .error e => .error (.unregistered e)

/-- The model of a checkpoint that was fetched. -/
def identify (r : Resolver) (files : Files) (locator : String) (c : Checkpoint) :
    Except LoadError ResolvedModel :=
  match r.entryOf c with
  | .error e => .error e
  | .ok entry =>
    match r.resolve files c with
    | .ok config => .ok ⟨locator, entry, c, config⟩
    | .error e => .error (.resolution e)

/-- Loads the model at a locator. -/
def resolveModel (r : Resolver) (files : Files) (fetcher : Fetcher) (locator : String) :
    Except LoadError ResolvedModel :=
  match fetcher.fetch files locator with
  | .ok c => r.identify files locator c
  | .error e => .error (.fetch e)

/-- The resolver after a model was loaded. Only a checkpoint with a registered architecture is
resolved. -/
def afterResolveModel (r : Resolver) (files : Files) (fetcher : Fetcher) (locator : String) :
    Resolver :=
  match fetcher.fetch files locator with
  | .error _ => r
  | .ok c =>
    match r.entryOf c with
    | .error _ => r
    | .ok _ => r.afterResolve files c

end Resolver

end ModelRegistry
