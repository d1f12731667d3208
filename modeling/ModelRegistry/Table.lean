/-!
# ModelRegistry.Table

Finite maps as lists of entries. The order of the entries says nothing; what
counts is the value under each key, `List.lookup`. The functions below keep the
keys distinct, so the length of the list is the number of keys.

`Shared` is for values that are handed out by reference: two answers are the same
object exactly when they carry the same serial number.
-/

namespace ModelRegistry

/-- A finite map. -/
abbrev Table (κ α : Type) := List (κ × α)

namespace Table

variable {κ α : Type} [DecidableEq κ]

/-- The table without a key. -/
def erase (key : κ) (t : Table κ α) : Table κ α := t.filter fun entry => entry.1 ≠ key

/-- The table with a value under a key, in place of what was there. -/
def put (key : κ) (value : α) (t : Table κ α) : Table κ α := (key, value) :: erase key t

/-- The table with a value under a key that has none yet. -/
def putNew (key : κ) (value : α) (t : Table κ α) : Table κ α :=
  if (t.lookup key).isSome then t else (key, value) :: t

/-- The table of a list in which a later entry replaces an earlier one. -/
def ofList (entries : List (κ × α)) : Table κ α :=
  entries.foldl (fun t entry => put entry.1 entry.2 t) []

theorem lookup_erase (key other : κ) (t : Table κ α) :
    (erase key t).lookup other = if other = key then none else t.lookup other := by
  induction t with
  | nil => simp [erase]
  | cons entry rest ih =>
    simp only [erase] at ih
    grind [erase]

theorem lookup_put (key other : κ) (value : α) (t : Table κ α) :
    (put key value t).lookup other = if other = key then some value else t.lookup other := by
  grind [put, lookup_erase]

theorem lookup_putNew (key other : κ) (value : α) (t : Table κ α) :
    (putNew key value t).lookup other =
      if other = key then some ((t.lookup key).getD value) else t.lookup other := by
  cases h : t.lookup key <;> grind [putNew]

end Table

/-- A value that is handed out by reference, with the serial number it got when it was
made. -/
structure Shared (α : Type) where
  serial : Nat
  value : α
  deriving DecidableEq, Repr

end ModelRegistry
