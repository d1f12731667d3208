import ModelRegistry.Architecture.Builtin
import ModelRegistry.Coalescing
import ModelRegistry.Config.Builtin
import ModelRegistry.Loading
import ModelRegistry.Verification

/-!
# ModelRegistry.Service.Setup

Starting the service. The declared architectures are registered, the registry is
frozen, and every entry is verified; only if all of this succeeds is there a
service.
-/

namespace ModelRegistry

/-- What a service is started from. -/
structure Setup where
  declarations : List Declaration
  mapping : ClassMapping
  source : ClassSource
  catalog : Catalog
  fetcher : Fetcher

namespace Setup

/-- Without any architecture. -/
def empty (hub : Hub) : Setup where
  declarations := []
  mapping := .empty
  source := .empty
  catalog := .empty
  fetcher := .files Fetcher.defaultRevision hub

/-- With the architectures that come with the library, and no external source. -/
def builtin (hub : Hub) : Setup where
  declarations := Declaration.builtin
  mapping := .builtin
  source := .empty
  catalog := .builtin
  fetcher := .files Fetcher.defaultRevision hub

/-- The setup with more declarations after its own. -/
def withDeclarations (declarations : List Declaration) (s : Setup) : Setup :=
  { s with declarations := s.declarations ++ declarations }

end Setup

/-- Why a service could not be started. -/
inductive StartError where
  | registry (error : DeclarationError)
  | verification (report : Report)
  /-- The program stops while it verifies. -/
  | halt (reason : Halt)
  deriving DecidableEq, Repr

/-- The text of the error. -/
def StartError.message : StartError → String
  | .registry e => "failed to register architectures: " ++ e.message
  | .verification report => "architecture verification failed\n" ++ report.text
  | .halt reason => reason.message

/-- A service that can prepare models. -/
structure Service where
  resolver : Resolver
  catalog : Catalog
  fetcher : Fetcher
  pairings : PairingTable
  /-- The models that are being loaded or were. -/
  loads : Coalescer (Except LoadError ResolvedModel)
  /-- The flights in front of this place began before the last wait, so that even slow
  fetches of theirs are over. -/
  waited : Nat
  report : Report

/-- Starts a service. -/
def Setup.start (s : Setup) (files : Files) : Except StartError Service :=
  let registration := Registry.empty.registerAll s.declarations
  match registration.outcome with
  | .error e => .error (.registry e)
  | .ok _ =>
    let registry := registration.registry.freeze
    let verifier : Verifier := ⟨s.catalog, s.mapping, s.source⟩
    match verifier.report files registry with
    | .error reason => .error (.halt reason)
    | .ok report =>
      if report.isOk then
        let after := verifier.afterEntries files registry.entries
        .ok {
          resolver := ⟨registry, after.mapping, after.source⟩
          catalog := after.catalog
          fetcher := s.fetcher
          pairings := .empty
          loads := .empty
          waited := 0
          report }
      else .error (.verification report)

namespace Service

/-- The frozen registry. -/
def registry (s : Service) : Registry := s.resolver.registry

/-- The number of fetches so far. -/
def fetches (s : Service) : Nat := s.loads.fetches

/-- The service as diagnostics show it. -/
def summary (s : Service) : String :=
  "ArchitectureRuntime \x7b registry: " ++ s.registry.summary ++ ", resolver: "
    ++ s.resolver.summary ++ " \x7d"

end Service

end ModelRegistry
