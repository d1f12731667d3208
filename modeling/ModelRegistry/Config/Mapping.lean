import ModelRegistry.Config.Class
import ModelRegistry.Table

/-!
# ModelRegistry.Config.Mapping

The explicit mapping from architectures to configuration classes. Every inserted
class is an object of its own, numbered by `issued`, even if an equal class was
inserted before. A class is reached by the architecture it was inserted under and
by each of its model types that no other class had claimed before; removing the
architecture takes back exactly the aliases that lead to that object.
-/

namespace ModelRegistry

/-- Classes by architecture, and by model type. -/
structure ClassMapping where
  byArchitecture : Table String (Shared ConfigClass)
  byModelType : Table String (Shared ConfigClass)
  /-- How many classes have been inserted; the serial number of the next one. -/
  issued : Nat

namespace ClassMapping

/-- A mapping without classes. -/
def empty : ClassMapping := ⟨[], [], 0⟩

/-- Lets an object be reached by the model types that are still free. -/
def claim (c : Shared ConfigClass) (aliases : Table String (Shared ConfigClass)) :
    Table String (Shared ConfigClass) :=
  c.value.modelTypes.foldl (fun t modelType => t.putNew modelType c) aliases

/-- Maps an architecture to a class. -/
def insert (architecture : String) (c : ConfigClass) (m : ClassMapping) : ClassMapping :=
  let shared : Shared ConfigClass := ⟨m.issued, c⟩
  { byArchitecture := m.byArchitecture.put architecture shared
    byModelType := claim shared m.byModelType
    issued := m.issued + 1 }

/-- The object mapped to an architecture. -/
def get? (m : ClassMapping) (architecture : String) : Option (Shared ConfigClass) :=
  m.byArchitecture.lookup architecture

/-- The object that answers to a model type. -/
def alias? (m : ClassMapping) (modelType : String) : Option (Shared ConfigClass) :=
  m.byModelType.lookup modelType

/-- Whether an architecture is mapped. -/
def contains (m : ClassMapping) (architecture : String) : Bool := (m.get? architecture).isSome

/-- The number of mapped architectures. -/
def size (m : ClassMapping) : Nat := m.byArchitecture.length

/-- Unmaps an architecture and drops the aliases of the object that was mapped to it. -/
def remove (architecture : String) (m : ClassMapping) : ClassMapping :=
  match m.get? architecture with
  | none => m
  | some c =>
    { m with
      byArchitecture := m.byArchitecture.erase architecture
      byModelType := m.byModelType.filter fun entry => entry.2.serial ≠ c.serial }

/-- The mapping of a list of classes under their architectures. -/
def ofList (classes : List (String × ConfigClass)) : ClassMapping :=
  classes.foldl (fun m entry => m.insert entry.1 entry.2) empty

end ClassMapping

end ModelRegistry
