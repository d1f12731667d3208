import ModelRegistry.Service.Setup

/-!
# ModelRegistry.Service.Preparation

Preparing models: a model is loaded, and its implementation is located. Requests
that are made at once go through two rounds. In the first each is made and gets as
far as it can without waiting; where fetches are slow, all of them are then under
way together, and requests for one locator share a flight. After the wait, in the
second round, each is brought to its end.
-/

namespace ModelRegistry

/-- A model ready to be started: what it is, its implementation, and the subsystems that its
modalities need. -/
structure PreparedModel where
  resolved : ResolvedModel
  implementation : Implementation
  subsystems : List Subsystem

/-- The architecture of a prepared model. -/
def PreparedModel.architecture (m : PreparedModel) : String := m.resolved.entry.id

/-- What comes of a request: a prepared model, with the flight that loaded it, or an error. -/
abbrev Preparation := Except LoadError (Shared PreparedModel)

/-- A request under way. -/
inductive Pending where
  | waiting (request flight : Nat) (locator : String)
  | done (outcome : Preparation)

namespace Service

/-- Locates the implementation of a loaded model. -/
def locate (flight : Nat) (m : ResolvedModel) : StateM Service Preparation := do
  let s ← get
  set { s with catalog := s.catalog.afterLookup }
  match s.catalog.locate m.entry.loader with
  | .ok implementation =>
    return .ok ⟨flight, m, implementation, Subsystem.required m.entry.modalities⟩
  | .error e => return .error (.implementation m.entry.id e)

/-- The result of a flight. A flight that is still in the air lands with the model of its
locator. -/
def land (files : Files) (flight : Nat) (locator : String) :
    StateM Service (Except LoadError ResolvedModel) := do
  let s ← get
  match s.loads.result? flight with
  | some result => return result
  | none =>
    let result := s.resolver.resolveModel files s.fetcher locator
    set { s with
      resolver := s.resolver.afterResolveModel files s.fetcher locator
      loads := s.loads.land flight result }
    return result

/-- Brings a request to its end. -/
def complete (files : Files) (request flight : Nat) (locator : String) :
    StateM Service Preparation := do
  let result ← land files flight locator
  modify fun s => { s with loads := s.loads.answer request }
  match result with
  | .ok m => locate flight m
  | .error e => return .error e

/-- Whether a flight lands without a wait. -/
def isOver (s : Service) (flight : Nat) : Bool := !s.fetcher.isSlow || flight < s.waited

/-- Makes a request and brings it as far as it comes without waiting. -/
def begin (files : Files) (locator : String) : StateM Service Pending := do
  let s ← get
  let request := s.loads.requests.length
  let flight := s.loads.nextFlight locator
  set { s with loads := (s.loads.request locator).beginFetch flight }
  if s.isOver flight then return .done (← complete files request flight locator)
  else return .waiting request flight locator

/-- Waits until the fetches that are under way are over. -/
def wait : StateM Service Unit := modify fun s => { s with waited := s.loads.flights.length }

/-- Brings a request to its end after a wait. -/
def settle (files : Files) : Pending → StateM Service Preparation
  | .waiting request flight locator => complete files request flight locator
  | .done outcome => return outcome

/-- Drops a request, if it is still under way. -/
def abandon : Pending → StateM Service Unit
  | .waiting request _ _ => modify fun s => { s with loads := s.loads.drop request }
  | .done _ => return ()

/-- Prepares models that are requested at once. -/
def prepareMany (files : Files) (locators : List String) : StateM Service (List Preparation) := do
  let pending ← locators.mapM (begin files)
  wait
  pending.mapM (settle files)

/-- Prepares the model at a locator. -/
def prepare (files : Files) (locator : String) : StateM Service Preparation := do
  let pending ← begin files locator
  wait
  settle files pending

end Service

end ModelRegistry
