import ModelRegistry.Proofs.Coalescing
import ModelRegistry.Proofs.Resolution
import ModelRegistry.Service.Speculative

/-!
# ModelRegistry.Proofs.Service.Preparation

What taking a request up and completing it do to a service, as equations. A
request that joins a flight in the air is told what loading its locator comes to
when it is completed, so that a request that is made and completed without a
pause is told what loading comes to now.
-/

namespace ModelRegistry

namespace Service

variable {s : Service} {files : Files} {flight : Nat} {locator : String}

/-! ## Single operations -/

/-- What a request is told, given the result of its flight. -/
def outcomeOf (catalog : Catalog) (flight : Nat) :
    Except LoadError ResolvedModel → Preparation
  | .error e => .error e
  | .ok m =>
    match catalog.locate m.entry.loader with
    | .ok implementation =>
      .ok ⟨flight, m, implementation, Subsystem.required m.entry.modalities⟩
    | .error e => .error (.implementation m.entry.id e)

/-- The result of a flight, which is loaded now if the flight is still in the air. -/
def resultOf (s : Service) (files : Files) (flight : Nat) (locator : String) :
    Except LoadError ResolvedModel :=
  (s.loads.result? flight).getD (s.resolver.resolveModel files s.fetcher locator)

/-- The service after a request was made and its flight has begun. -/
def requested (s : Service) (locator : String) : Service :=
  { s with loads := (s.loads.request locator).beginFetch (s.loads.nextFlight locator) }

theorem land_run_of_landed {result : Except LoadError ResolvedModel}
    (h : s.loads.result? flight = some result) :
    (land files flight locator).run s = (result, s) := by
  rw [land]
  simp only [StateT.run_bind, StateT.run_get, pure_bind, h]
  rfl

theorem land_run_of_aloft (h : s.loads.result? flight = none) :
    (land files flight locator).run s =
      (s.resolver.resolveModel files s.fetcher locator,
        { s with
          resolver := s.resolver.afterResolveModel files s.fetcher locator
          loads := s.loads.land flight (s.resolver.resolveModel files s.fetcher locator) }) := by
  rw [land]
  simp only [StateT.run_bind, StateT.run_get, pure_bind, h]
  rfl

theorem locate_run (s : Service) (flight : Nat) (m : ResolvedModel) :
    (locate flight m).run s =
      (outcomeOf s.catalog flight (.ok m), { s with catalog := s.catalog.afterLookup }) := by
  rw [locate, outcomeOf]
  simp only [StateT.run_bind, StateT.run_get, StateT.run_set, pure_bind]
  cases s.catalog.locate m.entry.loader with
  | ok implementation => rfl
  | error e => rfl

/-- The service after a request was completed: a flight in the air has landed, and a model that
was loaded has been looked up in the catalog. -/
def completed (s : Service) (files : Files) (i flight : Nat) (locator : String) : Service :=
  let result := s.resultOf files flight locator
  { s with
    resolver :=
      if (s.loads.result? flight).isSome then s.resolver
      else s.resolver.afterResolveModel files s.fetcher locator
    catalog := if result.isOk then s.catalog.afterLookup else s.catalog
    loads := (s.loads.land flight result).answer i }

theorem land_run (s : Service) (flight : Nat) (locator : String) :
    (land files flight locator).run s =
      (s.resultOf files flight locator,
        { s with
          resolver :=
            if (s.loads.result? flight).isSome then s.resolver
            else s.resolver.afterResolveModel files s.fetcher locator
          loads := s.loads.land flight (s.resultOf files flight locator) }) := by
  cases h : s.loads.result? flight with
  | some result =>
      rw [land_run_of_landed h, resultOf, h, Option.getD_some, Coalescer.land_of_landed h]
      rfl
  | none =>
      rw [land_run_of_aloft h, resultOf, h, Option.getD_none]
      rfl

/-- Completing a request tells it the result of its flight. -/
theorem complete_run (s : Service) (i flight : Nat) (locator : String) :
    (complete files i flight locator).run s =
      (outcomeOf s.catalog flight (s.resultOf files flight locator),
        s.completed files i flight locator) := by
  rw [complete, completed]
  simp only [StateT.run_bind, StateT.run_modify, land_run, pure_bind]
  cases s.resultOf files flight locator with
  | error e => rfl
  | ok m => exact locate_run _ flight m

theorem begin_run (s : Service) (locator : String) :
    (begin files locator).run s =
      if s.isOver (s.loads.nextFlight locator) then
        let completed := (complete files s.loads.requests.length (s.loads.nextFlight locator)
          locator).run (s.requested locator)
        (.done completed.1, completed.2)
      else
        (.waiting s.loads.requests.length (s.loads.nextFlight locator) locator,
          s.requested locator) := by
  rw [begin]
  simp only [StateT.run_bind, StateT.run_get, StateT.run_set, pure_bind]
  split <;> rfl

/-! ## Whole requests -/

/-- A request that joined a flight in the air is told what loading comes to now. -/
theorem complete_of_aloft (h : s.loads.Aloft locator flight) (i : Nat) :
    ((complete files i flight locator).run s).1 =
      outcomeOf s.catalog flight (s.resolver.resolveModel files s.fetcher locator) := by
  rw [complete_run, resultOf, h.result?, Option.getD_none]

theorem waits_requested (h : s.loads.SlotsOpen) (locator : String) :
    (s.requested locator).loads.Waits s.loads.requests.length (s.loads.nextFlight locator)
      locator :=
  (h.waits_request locator).beginFetch _

theorem aloft_requested (h : s.loads.SlotsOpen) (locator : String) :
    (s.requested locator).loads.Aloft locator (s.loads.nextFlight locator) :=
  (h.aloft_request locator).beginFetch _

/-- Preparing a model comes to what loading it comes to now, whatever requests are under way. -/
theorem prepare_of_slotsOpen (h : s.loads.SlotsOpen) (files : Files) (locator : String) :
    ((prepare files locator).run s).1 =
      outcomeOf s.catalog (s.loads.nextFlight locator)
        (s.resolver.resolveModel files s.fetcher locator) := by
  have haloft := aloft_requested h locator
  rw [prepare]
  simp only [StateT.run_bind, begin_run]
  split
  · exact complete_of_aloft haloft _
  · exact complete_of_aloft (s := { s.requested locator with
      waited := (s.requested locator).loads.flights.length }) haloft _

end Service

end ModelRegistry
