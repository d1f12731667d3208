import ModelRegistry.Text.Blank
import ModelRegistry.Text.Quoted

/-!
# ModelRegistry.LoaderReference

References to implementations, written `module::path::Class`. A reference is
only a name; a catalog says whether it leads anywhere.

Reading removes blanks at both ends, cuts at the last `::`, and then asks that
every segment be a word of ASCII letters, digits and underscores. Colons that
overlap (`a:::B`) leave a colon in a segment and are refused.
-/

namespace ModelRegistry

open Text

/-- Where an implementation lives: the path of its module and its name there. -/
structure LoaderReference where
  path : String
  name : String
  deriving DecidableEq, Repr

namespace LoaderReference

/-- The written form. -/
def text (r : LoaderReference) : String := r.path ++ "::" ++ r.name

/-- Why a text is no reference. -/
inductive ReadError where
  /-- There is no `::` in it. -/
  | unseparated (text : String)
  /-- A segment is empty or holds another character. -/
  | badSegment (text : String)
  deriving DecidableEq, Repr

/-- The text of the error; it quotes what was read, blanks included. -/
def ReadError.message : ReadError → String
  | .unseparated s => "loader reference " ++ quoted s ++ " is not of the form module::Class"
  | .badSegment s => "loader reference " ++ quoted s ++ " contains an invalid path segment"

/-- Cuts at the last `::`. -/
def cutLast? : List Char → Option (List Char × List Char)
  | [] => none
  | c :: rest =>
    match cutLast? rest with
    | some (before, after) => some (c :: before, after)
    | none =>
      match c, rest with
      | ':', ':' :: after => some ([], after)
      | _, _ => none

/-- The segments between the `::`, found from the left. -/
def segments : List Char → List (List Char)
  | [] => [[]]
  | ':' :: ':' :: rest => [] :: segments rest
  | c :: rest =>
    match segments rest with
    | s :: more => (c :: s) :: more
    | [] => [[c]]

/-- Reads a reference. -/
def parse (s : String) : Except ReadError LoaderReference :=
  match cutLast? (trimChars s.toList) with
  | none => .error (.unseparated s)
  | some (path, name) =>
    if (segments path).all isWord && isWord name then
      .ok ⟨String.ofList path, String.ofList name⟩
    else .error (.badSegment s)

end LoaderReference

end ModelRegistry
