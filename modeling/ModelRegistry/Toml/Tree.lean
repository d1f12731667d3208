import ModelRegistry.Document

/-!
# ModelRegistry.Toml.Tree

The tables of a TOML text while it is read. A table can be opened by its own
header, it can be implied by the header of a table below it, or it can come out of
a dotted key, and the three are treated differently when the text comes back to
them:

* a header may open an implied table, once, and no other;
* a dotted key may pass through implied and dotted tables, and not through one that
  has a header; it may end in a table only if that table is dotted itself;
* a plain key may stand in any table that is open, once.
-/

namespace ModelRegistry.Toml

/-- How a table came about. -/
inductive Origin where
  | header | implied | dotted
  deriving DecidableEq, Repr

/-- What a key stands for: a value, a table, or an array of tables that have headers. -/
inductive Node where
  | value (d : Document)
  | table (origin : Origin) (entries : List (String × Node))
  | tables (elements : List (List (String × Node)))

/-- The contents of a table. -/
abbrev Entries := List (String × Node)

namespace Entries

/-- Changes the table at the end of a path. Tables that are missing on the way are made with
the given origin; in an array of tables the way leads through the last one. -/
def changeAt (origin : Origin) (change : Origin → Entries → Option Entries) :
    List String → Origin → Entries → Option Entries
  | [], here, entries => change here entries
  | key :: rest, _, entries =>
    match entries.lookup key with
    | none =>
      (changeAt origin change rest origin []).map fun child =>
        Members.insert key (.table origin child) entries
    | some (.value _) => none
    | some (.table found child) =>
      if origin = .dotted ∧ found = .header then none
      else
        (changeAt origin change rest found child).map fun child =>
          Members.insert key (.table found child) entries
    | some (.tables elements) =>
      match elements.reverse with
      | [] => none
      | last :: before =>
        (changeAt origin change rest .header last).map fun last =>
          Members.insert key (.tables (last :: before).reverse) entries

/-- Gives a value to a key, which may be dotted: `path` holds the parts before the last. -/
def addValue (path : List String) (key : String) (d : Document) (entries : Entries) :
    Option Entries :=
  changeAt .dotted
    (fun here entries =>
      if (here = .dotted ↔ path = []) ∨ (entries.lookup key).isSome then none
      else some (Members.insert key (.value d) entries))
    path .header entries

/-- Opens the table of a header. -/
def openTable (path : List String) (key : String) (entries : Entries) : Option Entries :=
  changeAt .implied
    (fun _ entries =>
      match entries.lookup key with
      | none => some (Members.insert key (.table .header []) entries)
      | some (.table .implied child) => some (Members.insert key (.table .header child) entries)
      | some _ => none)
    path .header entries

/-- Opens the next table of an array of tables. -/
def openElement (path : List String) (key : String) (entries : Entries) : Option Entries :=
  changeAt .implied
    (fun _ entries =>
      match entries.lookup key with
      | none => some (Members.insert key (.tables [[]]) entries)
      | some (.tables elements) =>
        some (Members.insert key (.tables (elements ++ [[]])) entries)
      | some _ => none)
    path .header entries

mutual

/-- What a key stands for, as a document. -/
def nodeDocument : Node → Document
  | .value d => d
  | .table _ entries => .object (entryDocuments entries)
  | .tables elements => .array (elementDocuments elements)

/-- The contents of a table as members. -/
def entryDocuments : List (String × Node) → List (String × Document)
  | [] => []
  | (key, node) :: rest => (key, nodeDocument node) :: entryDocuments rest

/-- The tables of an array as documents. -/
def elementDocuments : List (List (String × Node)) → List Document
  | [] => []
  | entries :: rest => .object (entryDocuments entries) :: elementDocuments rest

end

/-- A table as a document. -/
def toDocument (entries : Entries) : Document := .object (entryDocuments entries)

end Entries

end ModelRegistry.Toml
