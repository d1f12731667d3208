import ModelRegistry.Table

/-!
# ModelRegistry.Coalescing

Concurrent requests for the same locator share one piece of work, here a *flight*.
A request joins the flight in the locator's slot, or starts one and puts it there.
A flight fetches once and then lands with a result. A request returns the result
of the flight that it joined, and clears the slot if that flight still holds it; a
request can also be dropped while it waits, and its flight goes on.

`Coalescer` keeps all flights and requests, so that both are known by their
places. `Coalescer.Step` says what can happen, in any order.
-/

namespace ModelRegistry

/-- How far a flight has come. -/
inductive Stage (ρ : Type) where
  | ready
  | fetching
  | landed (result : ρ)
  deriving DecidableEq, Repr

/-- A piece of work for a locator. -/
structure Flight (ρ : Type) where
  locator : String
  stage : Stage ρ
  /-- How many fetches it has begun. -/
  fetches : Nat
  deriving DecidableEq, Repr

namespace Flight

variable {ρ : Type}

/-- A flight that has done nothing yet. -/
def ofLocator (locator : String) : Flight ρ := ⟨locator, .ready, 0⟩

/-- The flight after it was told to begin its fetch; it does so only if it has not yet. -/
def beginFetch (f : Flight ρ) : Flight ρ :=
  match f.stage with
  | .ready => { f with stage := .fetching, fetches := f.fetches + 1 }
  | _ => f

/-- The flight after its fetch came to a result; nothing comes of a fetch that has not begun
or is over. -/
def land (result : ρ) (f : Flight ρ) : Flight ρ :=
  match f.stage with
  | .fetching => { f with stage := .landed result }
  | _ => f

/-- The result, if the flight has landed. -/
def result? (f : Flight ρ) : Option ρ :=
  match f.stage with
  | .landed result => some result
  | _ => none

end Flight

/-- What has become of a request. -/
inductive RequestState (ρ : Type) where
  | waiting
  | returned (result : ρ)
  | dropped
  deriving DecidableEq, Repr

/-- A request and the flight that it joined. -/
structure Request (ρ : Type) where
  flight : Nat
  state : RequestState ρ
  deriving DecidableEq, Repr

/-- All flights and requests so far, and the flights that new requests can join. -/
structure Coalescer (ρ : Type) where
  flights : List (Flight ρ)
  slots : Table String Nat
  requests : List (Request ρ)
  deriving DecidableEq, Repr

namespace Coalescer

variable {ρ : Type}

/-- Nothing has been requested. -/
def empty : Coalescer ρ := ⟨[], [], []⟩

/-- The flight that the next request for a locator joins: the one in its slot, else a new
one. -/
def nextFlight (c : Coalescer ρ) (locator : String) : Nat :=
  (c.slots.lookup locator).getD c.flights.length

/-- Requests a locator: joins the flight in its slot, else makes one. -/
def request (locator : String) (c : Coalescer ρ) : Coalescer ρ :=
  let requests := c.requests ++ [⟨c.nextFlight locator, .waiting⟩]
  match c.slots.lookup locator with
  | some _ => { c with requests }
  | none =>
    { flights := c.flights ++ [.ofLocator locator]
      slots := c.slots.put locator c.flights.length
      requests }

/-- Lets a flight begin its fetch. -/
def beginFetch (flight : Nat) (c : Coalescer ρ) : Coalescer ρ :=
  { c with flights := c.flights.modify flight Flight.beginFetch }

/-- Lets a flight land with a result. -/
def land (flight : Nat) (result : ρ) (c : Coalescer ρ) : Coalescer ρ :=
  { c with flights := c.flights.modify flight (Flight.land result) }

/-- The result of a flight that has landed. -/
def result? (flight : Nat) (c : Coalescer ρ) : Option ρ := c.flights[flight]?.bind Flight.result?

/-- Clears the slot that holds a flight. -/
def clearSlot (flight : Nat) (c : Coalescer ρ) : Table String Nat :=
  match c.flights[flight]? with
  | none => c.slots
  | some f => if c.slots.lookup f.locator = some flight then c.slots.erase f.locator else c.slots

/-- Returns the result of its flight to a request, if it is waiting and the flight has
landed. -/
def answer (request : Nat) (c : Coalescer ρ) : Coalescer ρ :=
  match c.requests[request]? with
  | some ⟨flight, .waiting⟩ =>
    match c.result? flight with
    | some result =>
      { c with
        slots := c.clearSlot flight
        requests := c.requests.set request ⟨flight, .returned result⟩ }
    | none => c
  | _ => c

/-- Drops a request that is waiting. -/
def drop (request : Nat) (c : Coalescer ρ) : Coalescer ρ :=
  match c.requests[request]? with
  | some ⟨flight, .waiting⟩ =>
    { c with requests := c.requests.set request ⟨flight, .dropped⟩ }
  | _ => c

/-- The number of fetches that all flights have begun. -/
def fetches (c : Coalescer ρ) : Nat := c.flights.foldr (fun f n => f.fetches + n) 0

/-- What can happen next: a request comes, a flight begins its fetch or lands, a request
returns or is dropped. -/
inductive Step : Coalescer ρ → Coalescer ρ → Prop where
  | request (locator : String) (c : Coalescer ρ) : Step c (c.request locator)
  | beginFetch (flight : Nat) (c : Coalescer ρ) : Step c (c.beginFetch flight)
  | land (flight : Nat) (result : ρ) (c : Coalescer ρ) : Step c (c.land flight result)
  | answer (request : Nat) (c : Coalescer ρ) : Step c (c.answer request)
  | drop (request : Nat) (c : Coalescer ρ) : Step c (c.drop request)

end Coalescer

end ModelRegistry
