import ModelRegistry.LoaderReference
import ModelRegistry.Modality
import ModelRegistry.Speculative.Role
import ModelRegistry.Table

/-!
# ModelRegistry.Architecture.Registry

The registry of model architectures. It is filled while the program starts, one
entry after the other, and then frozen; from then on nothing can be added and
every look-up keeps its answer.

Freezing publishes the table that was filled so far, and leaves an empty one in
its place. All questions go to the published table once there is one.
-/

namespace ModelRegistry

/-- One pluggable model architecture. -/
structure Architecture where
  /-- The name under which checkpoints declare the architecture. -/
  id : String
  /-- The input modalities, as a set. -/
  modalities : List Modality
  loader : LoaderReference
  /-- The model type that leads to a configuration class when none is mapped to `id`. -/
  modelType : Option String
  /-- Without a declaration the architecture takes no part in speculative decoding. -/
  speculative : Option SpeculativeDeclaration
  deriving DecidableEq, Repr

/-- Why the registry refused. -/
inductive RegistryError where
  | duplicateArchitecture (id : String)
  | registryFrozen (id : String)
  | unregisteredArchitecture (ids : String)
  deriving DecidableEq, Repr

/-- The text of the error. -/
def RegistryError.message : RegistryError → String
  | .duplicateArchitecture id => "architecture " ++ id ++ " is already registered"
  | .registryFrozen id => "registry is frozen, cannot register " ++ id
  | .unregisteredArchitecture ids => "unsupported architecture: " ++ ids

/-- Architectures, in the order in which they were inserted and by their ids. -/
structure ArchitectureTable where
  order : List Architecture
  byId : Table String Architecture
  /-- Under an id stands the architecture that was inserted with it. -/
  lookup_byId : ∀ id, byId.lookup id = order.find? (·.id == id)
  /-- No id was inserted twice. -/
  distinct : (order.map (·.id)).Nodup
  deriving DecidableEq, Repr

namespace ArchitectureTable

/-- A table without architectures. -/
def empty : ArchitectureTable := ⟨[], [], fun _ => rfl, .nil⟩

/-- The architecture with this id. -/
def find? (t : ArchitectureTable) (id : String) : Option Architecture := t.byId.lookup id

variable {t : ArchitectureTable} {a : Architecture} {id : String}

theorem find?_eq_none_iff : t.find? id = none ↔ id ∉ t.order.map (·.id) := by
  simp [find?, t.lookup_byId]

theorem lookup_put_eq_find?_concat (hnew : t.find? a.id = none) (id : String) :
    (t.byId.put a.id a).lookup id = (t.order ++ [a]).find? (·.id == id) := by
  rw [find?] at hnew
  rw [Table.lookup_put, List.find?_append, ← t.lookup_byId]
  by_cases hid : id = a.id
  · simp [hid, hnew]
  · simp [hid, Ne.symm hid]

theorem nodup_concat (hnew : t.find? a.id = none) :
    ((t.order ++ [a]).map (·.id)).Nodup := by
  rw [find?_eq_none_iff] at hnew
  rw [List.map_append, List.nodup_append]
  refine ⟨t.distinct, by simp, ?_⟩
  intro id hid other hother hsame
  obtain rfl : other = a.id := by simpa using hother
  exact hnew (hsame ▸ hid)

/-- The table with an architecture whose id it does not have. -/
def insert (a : Architecture) (t : ArchitectureTable) (hnew : t.find? a.id = none) :
    ArchitectureTable where
  order := t.order ++ [a]
  byId := t.byId.put a.id a
  lookup_byId := lookup_put_eq_find?_concat hnew
  distinct := nodup_concat hnew

end ArchitectureTable

/-- The registered architectures. -/
structure Registry where
  /-- What was registered since the start, until the registry is frozen. -/
  pending : ArchitectureTable
  /-- What was registered when the registry was frozen. -/
  published : Option ArchitectureTable
  deriving DecidableEq, Repr

namespace Registry

/-- A registry without entries. -/
def empty : Registry := ⟨.empty, none⟩

/-- Whether the registry takes no more entries. -/
def frozen (r : Registry) : Bool := r.published.isSome

/-- The table that answers. -/
def table (r : Registry) : ArchitectureTable := r.published.getD r.pending

/-- The entries, in the order of registration. -/
def entries (r : Registry) : List Architecture := r.table.order

/-- The entry with this id. -/
def find? (r : Registry) (id : String) : Option Architecture := r.table.find? id

/-- Whether the id is registered. -/
def contains (r : Registry) (id : String) : Bool := (r.find? id).isSome

/-- Adds an entry. Once frozen, the registry takes none; before that, none whose id it has. -/
def register (a : Architecture) (r : Registry) : Except RegistryError Registry :=
  if r.frozen then .error (.registryFrozen a.id)
  else
    match hnew : r.pending.find? a.id with
    | some _ => .error (.duplicateArchitecture a.id)
    | none => .ok { r with pending := r.pending.insert a hnew }

/-- Closes the registry for good: publishes what was registered. -/
def freeze (r : Registry) : Registry :=
  match r.published with
  | some _ => r
  | none => ⟨.empty, some r.pending⟩

/-- Looks up an id. -/
def resolve (r : Registry) (id : String) : Except RegistryError Architecture :=
  match r.find? id with
  | some a => .ok a
  | none => .error (.unregisteredArchitecture id)

/-- The entry of the first id that is registered. -/
def resolveFirst (r : Registry) (ids : List String) : Except RegistryError Architecture :=
  if ids.isEmpty then .error (.unregisteredArchitecture "empty architectures list")
  else
    match ids.findSome? r.find? with
    | some a => .ok a
    | none => .error (.unregisteredArchitecture (", ".intercalate ids))

/-- The number of entries. -/
def size (r : Registry) : Nat := r.entries.length

/-- The registry as diagnostics show it. -/
def summary (r : Registry) : String :=
  "ArchitectureRegistry \x7b frozen: " ++ toString r.frozen ++ ", architectures: "
    ++ toString r.size ++ " \x7d"

end Registry

end ModelRegistry
