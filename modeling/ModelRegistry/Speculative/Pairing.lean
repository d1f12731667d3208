import ModelRegistry.Architecture.Registry
import ModelRegistry.Speculative.HiddenStates
import ModelRegistry.Table

/-!
# ModelRegistry.Speculative.Pairing

Pairs of a target and a draft. Whether two architectures form a pair follows from
what they declare: the target's role must allow it to verify and the draft's to
draft, both adapters must be valid, and both must lead to the same layout.

`PairingTable` remembers the facts and the pairs that it has handed out, as shared
objects; failures are not remembered.
-/

namespace ModelRegistry

/-- The sides of a pair. -/
inductive Side where
  | draft | target
  deriving DecidableEq, Repr

/-- The name of a side. -/
def Side.name : Side → String
  | .draft => "draft"
  | .target => "target"

/-- Whether a role allows a side. -/
def Role.allows (role : Role) : Side → Bool
  | .draft => role.canDraft
  | .target => role.canVerify

/-- What an architecture declares about speculative decoding. -/
structure SpeculativeFacts where
  architecture : String
  role : Role
  /-- Only an architecture that takes part has an adapter. -/
  adapter : Option Adapter
  deriving DecidableEq, Repr

namespace SpeculativeFacts

/-- The facts of an entry. Without a declaration, or with the role `none`, an architecture
takes no part. -/
def ofArchitecture (a : Architecture) : SpeculativeFacts :=
  match a.speculative with
  | some s => ⟨a.id, s.role, if s.role = .none then none else some s.adapter⟩
  | none => ⟨a.id, .none, none⟩

end SpeculativeFacts

/-- Why two architectures do not form a pair. -/
inductive PairingError where
  | roleExcluded (architecture : String) (side : Side) (role : Role)
  | invalidAdapter (architecture : String) (reason : AdapterError)
  | layoutMismatch (target draft : String) (targetLayout draftLayout : Layout)
  | registry (error : RegistryError)
  /-- The program stops while it checks an adapter. -/
  | halt (reason : Halt)
  deriving DecidableEq, Repr

/-- The text of the error. -/
def PairingError.message : PairingError → String
  | .roleExcluded architecture side role =>
    architecture ++ " cannot be used as " ++ side.name ++ " (speculative role: " ++ role.name ++ ")"
  | .invalidAdapter architecture reason =>
    architecture ++ " has an invalid hidden state adapter: " ++ reason.message
  | .layoutMismatch target draft targetLayout draftLayout =>
    "hidden state layouts differ: draft " ++ draft ++ " produces " ++ draftLayout.text
      ++ ", target " ++ target ++ " produces " ++ targetLayout.text
  | .registry e => e.message
  | .halt reason => reason.message

/-- What the error of an architecture's adapter is for a pair. -/
def PairingError.ofAdapter (architecture : String) : AdapterError → PairingError
  | .halt reason => .halt reason
  | reason => .invalidAdapter architecture reason

/-- The adapter that an architecture uses on a side. -/
def SpeculativeFacts.adapterFor (facts : SpeculativeFacts) (side : Side) :
    Except PairingError Adapter :=
  let excluded : Except PairingError Adapter :=
    .error (.roleExcluded facts.architecture side facts.role)
  match facts.adapter with
  | none => excluded
  | some adapter =>
    if !facts.role.allows side then excluded
    else
      match adapter.validate with
      | .ok () => .ok adapter
      | .error e => .error (.ofAdapter facts.architecture e)

/-- The adapters of a pair, which lead to one layout. -/
structure PairAdapter where
  target : Adapter
  draft : Adapter
  shared : Layout
  deriving DecidableEq, Repr

namespace PairAdapter

/-- The adapter of a side. -/
def side (a : PairAdapter) : Side → Adapter
  | .draft => a.draft
  | .target => a.target

/-- Hidden states of a side in the shared layout. -/
def translate (a : PairAdapter) (side : Side) (t : HiddenStates) :
    Except AdapterError HiddenStates :=
  (a.side side).translate t

/-- The adapters of two architectures, if they fit together. -/
def compose (target draft : SpeculativeFacts) : Except PairingError PairAdapter := do
  let targetAdapter ← target.adapterFor .target
  let draftAdapter ← draft.adapterFor .draft
  if targetAdapter.shared = draftAdapter.shared then
    return ⟨targetAdapter, draftAdapter, targetAdapter.shared⟩
  else
    throw (.layoutMismatch target.architecture draft.architecture targetAdapter.shared
      draftAdapter.shared)

end PairAdapter

/-- A pair that was found to fit. -/
structure Pairing where
  target : Shared SpeculativeFacts
  draft : Shared SpeculativeFacts
  adapter : PairAdapter
  deriving DecidableEq, Repr

/-- The facts and pairs that were handed out so far. -/
structure PairingTable where
  facts : Table String (Shared SpeculativeFacts)
  pairings : Table (String × String) (Shared Pairing)
  deriving DecidableEq, Repr

namespace PairingTable

/-- A table that has handed out nothing. -/
def empty : PairingTable := ⟨[], []⟩

/-- The facts of a registered architecture, and the table that remembers them. -/
def compatibility (t : PairingTable) (registry : Registry) (id : String) :
    Except RegistryError (Shared SpeculativeFacts) × PairingTable :=
  match t.facts.lookup id with
  | some facts => (.ok facts, t)
  | none =>
    match registry.resolve id with
    | .error e => (.error e, t)
    | .ok a =>
      let facts : Shared SpeculativeFacts := ⟨t.facts.length, .ofArchitecture a⟩
      (.ok facts, { t with facts := t.facts.put id facts })

/-- The pair of a target and a draft, and the table that remembers it. The target is looked up
first. -/
def pair (t : PairingTable) (registry : Registry) (target draft : String) :
    Except PairingError (Shared Pairing) × PairingTable :=
  match t.pairings.lookup (target, draft) with
  | some pairing => (.ok pairing, t)
  | none =>
    match t.compatibility registry target with
    | (.error e, t) => (.error (.registry e), t)
    | (.ok targetFacts, t) =>
      match t.compatibility registry draft with
      | (.error e, t) => (.error (.registry e), t)
      | (.ok draftFacts, t) =>
        match PairAdapter.compose targetFacts.value draftFacts.value with
        | .error e => (.error e, t)
        | .ok adapter =>
          let pairing : Shared Pairing := ⟨t.pairings.length, targetFacts, draftFacts, adapter⟩
          (.ok pairing, { t with pairings := t.pairings.put (target, draft) pairing })

/-- The table as diagnostics show it. -/
def summary (t : PairingTable) : String :=
  "SpeculativeDecodeAdapter \x7b cached_pairings: " ++ toString t.pairings.length ++ " \x7d"

end PairingTable

end ModelRegistry
