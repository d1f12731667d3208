import ModelRegistry.Toml.Scalar
import ModelRegistry.Toml.Tree

/-!
# ModelRegistry.Toml.Reader

From TOML text to documents: values, lines of keys and values, and headers of
tables. Arrays and inline tables nest to a depth below `maxDepth`, and a dotted key
has fewer parts than that.
-/

namespace ModelRegistry.Toml

/-- The depth that neither values nor keys reach. -/
def maxDepth : Nat := 80

/-! ## Keys -/

/-- The characters of keys without quotes. -/
def isBare (c : Char) : Bool := c.isAlphanum || c == '_' || c == '-'

/-- Reads one part of a key. Quotes are those of strings of one line. -/
def keyPart? (cs : List Char) : Option (String × List Char) :=
  match cs with
  | '"' :: rest => basic? cs.length [] rest
  | '\'' :: rest => literal? [] rest
  | cs =>
    match cs.takeWhile isBare with
    | [] => none
    | bare => some (String.ofList bare, cs.dropWhile isBare)

/-- Reads the parts of a key and the blanks around them. `room` is the number of parts that it
may have. -/
def keyParts? (room : Nat) (cs : List Char) : Option (List String × List Char) :=
  match room with
  | 0 => none
  | room + 1 => do
    let (part, rest) ← keyPart? (skipSpace cs)
    match skipSpace rest with
    | '.' :: rest =>
      let (parts, rest) ← keyParts? room rest
      return (part :: parts, rest)
    | rest => return ([part], rest)

/-- Reads a key: the parts before the last, and the last. -/
def key? (cs : List Char) : Option ((List String × String) × List Char) := do
  let (parts, rest) ← keyParts? (maxDepth - 1) cs
  return ((parts.dropLast, ← parts.getLast?), rest)

/-! ## Values -/

mutual

/-- Reads a value at the given depth. The fuel bounds the number of nested calls; three times
the length of the text is enough. -/
def value? (fuel depth : Nat) (cs : List Char) : Option (Document × List Char) :=
  match fuel with
  | 0 => none
  | fuel + 1 =>
    match cs with
    | 't' :: 'r' :: 'u' :: 'e' :: rest => some (.bool true, rest)
    | 'f' :: 'a' :: 'l' :: 's' :: 'e' :: rest => some (.bool false, rest)
    | '"' :: _ | '\'' :: _ => (string? cs).map fun (s, rest) => (.string s, rest)
    | '[' :: rest =>
      if maxDepth ≤ depth + 1 then none
      else (items? fuel (depth + 1) [] rest).map fun (items, rest) => (.array items, rest)
    | '{' :: rest =>
      if maxDepth ≤ depth + 1 then none
      else
        match skipSpace rest with
        | '}' :: rest => some (.object [], rest)
        | rest =>
          (members? fuel (depth + 1) [] rest).map fun (entries, rest) => (entries.toDocument, rest)
    | cs => dateOrNumber? cs

/-- Reads the items of an array and the closing bracket; a comma may follow the last item. -/
def items? (fuel depth : Nat) (done : List Document) (cs : List Char) :
    Option (List Document × List Char) :=
  match fuel with
  | 0 => none
  | fuel + 1 =>
    match skipLines true false cs with
    | ']' :: rest => some (done.reverse, rest)
    | cs =>
      match value? fuel depth cs with
      | none => none
      | some (d, rest) =>
        match skipLines true false rest with
        | ',' :: rest => items? fuel depth (d :: done) rest
        | ']' :: rest => some ((d :: done).reverse, rest)
        | _ => none

/-- Reads the keys and values of an inline table, at least one, and the closing brace. -/
def members? (fuel depth : Nat) (done : Entries) (cs : List Char) :
    Option (Entries × List Char) :=
  match fuel with
  | 0 => none
  | fuel + 1 =>
    match key? cs with
    | some ((path, key), '=' :: rest) =>
      match value? fuel depth (skipSpace rest) with
      | none => none
      | some (d, rest) =>
        match done.addValue path key d with
        | none => none
        | some done =>
          match skipSpace rest with
          | ',' :: rest => members? fuel depth done rest
          | '}' :: rest => some (done, rest)
          | _ => none
    | _ => none

end

/-- Reads a value that is not nested in another. -/
def topValue? (cs : List Char) : Option (Document × List Char) :=
  value? (3 * cs.length + 3) 0 cs

/-! ## Lines -/

/-- What has been read of a text: the tables, and the path of the one that is open. -/
structure Draft where
  root : Entries
  opened : List String

namespace Draft

/-- The draft of an empty text: the table without a name is open. -/
def empty : Draft := ⟨[], []⟩

/-- The draft with a value in the open table. -/
def addValue (path : List String) (key : String) (d : Document) (draft : Draft) : Option Draft :=
  (draft.root.changeAt .implied (fun _ entries => entries.addValue path key d) draft.opened
    .header).map fun root => { draft with root }

/-- The draft after the header of a table. -/
def openTable (path : List String) (key : String) (draft : Draft) : Option Draft :=
  (draft.root.openTable path key).map fun root => ⟨root, path ++ [key]⟩

/-- The draft after the header of a table in an array of tables. -/
def openElement (path : List String) (key : String) (draft : Draft) : Option Draft :=
  (draft.root.openElement path key).map fun root => ⟨root, path ++ [key]⟩

end Draft

/-- Reads one line that is neither empty nor a comment. -/
def line? (draft : Draft) (cs : List Char) : Option (Draft × List Char) :=
  match cs with
  | '[' :: '[' :: rest => do
    let ((path, key), rest) ← key? rest
    let rest ← (mark? ']' rest).bind (mark? ']')
    return (← draft.openElement path key, ← lineEnd? rest)
  | '[' :: rest => do
    let ((path, key), rest) ← key? rest
    let rest ← mark? ']' rest
    return (← draft.openTable path key, ← lineEnd? rest)
  | cs => do
    let ((path, key), rest) ← key? cs
    let (d, rest) ← topValue? (skipSpace (← mark? '=' rest))
    return (← draft.addValue path key d, ← lineEnd? rest)

/-- Reads the lines of a text. The fuel bounds their number. -/
def lines? (fuel : Nat) (draft : Draft) (cs : List Char) : Option Draft :=
  match fuel with
  | 0 => none
  | fuel + 1 =>
    match skipSpace cs with
    | [] => some draft
    | cs =>
      match lineEnd? cs with
      | some rest => lines? fuel draft rest
      | none => (line? draft cs).bind fun (draft, rest) => lines? fuel draft rest

/-- The text without the mark of its encoding, if it starts with one. -/
def skipByteOrderMark : List Char → List Char
  | '\uFEFF' :: rest => rest
  | cs => cs

/-- The document that a TOML text writes. -/
def document? (text : String) : Option Document :=
  let cs := skipByteOrderMark text.toList
  (lines? (cs.length + 1) .empty cs).map fun draft => draft.root.toDocument

end ModelRegistry.Toml
