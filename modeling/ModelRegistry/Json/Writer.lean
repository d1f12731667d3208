import ModelRegistry.Json.Basic
import ModelRegistry.Number.Shortest

/-!
# ModelRegistry.Json.Writer

JSON text of values, on one line (`compact`) or indented by two blanks a level
(`pretty`). Members are written in the order in which the object holds them.
-/

namespace ModelRegistry.Json.Writer

open Number

/-- The digit of a number below sixteen. -/
def hexDigit (n : Nat) : Char := Nat.digitChar n

/-- One character between the quotes of a string. -/
def escape (c : Char) : List Char :=
  if c = '"' then ['\\', '"']
  else if c = '\\' then ['\\', '\\']
  else if c = '\x08' then ['\\', 'b']
  else if c = '\x0c' then ['\\', 'f']
  else if c = '\n' then ['\\', 'n']
  else if c = '\r' then ['\\', 'r']
  else if c = '\t' then ['\\', 't']
  else if c.toNat < 0x20 then
    ['\\', 'u', '0', '0', hexDigit (c.toNat / 16), hexDigit (c.toNat % 16)]
  else [c]

/-- A string between quotes. -/
def string (s : String) : String := String.ofList ('"' :: s.toList.flatMap escape ++ ['"'])

/-- The text of a number. -/
def number : JsonNumber → String
  | .integer n => toString n
  | .float x => x.jsonText

mutual

/-- The text of a value without any blanks. -/
def compact : Json → String
  | .null => "null"
  | .bool true => "true"
  | .bool false => "false"
  | .number n => number n
  | .string s => string s
  | .array items => "[" ++ ",".intercalate (compactItems items) ++ "]"
  | .object members => "\x7b" ++ ",".intercalate (compactMembers members) ++ "\x7d"

/-- The texts of the items of an array. -/
def compactItems : List Json → List String
  | [] => []
  | v :: rest => compact v :: compactItems rest

/-- The texts of the members of an object. -/
def compactMembers : List (String × Json) → List String
  | [] => []
  | (key, v) :: rest => (string key ++ ":" ++ compact v) :: compactMembers rest

end

/-- The start of a line at a level. -/
def indent (level : Nat) : String := "\n" ++ String.ofList (List.replicate (2 * level) ' ')

/-- A bracketed list of lines at a level; without lines the brackets touch. -/
def block (level : Nat) (left right : String) (lines : List String) : String :=
  if lines.isEmpty then left ++ right
  else left ++ indent (level + 1) ++ ("," ++ indent (level + 1)).intercalate lines ++ indent level
    ++ right

mutual

/-- The indented text of a value that starts at a level. -/
def prettyAt (level : Nat) : Json → String
  | .null => "null"
  | .bool true => "true"
  | .bool false => "false"
  | .number n => number n
  | .string s => string s
  | .array items => block level "[" "]" (prettyItems (level + 1) items)
  | .object members => block level "\x7b" "\x7d" (prettyMembers (level + 1) members)

/-- The indented texts of the items of an array. -/
def prettyItems (level : Nat) : List Json → List String
  | [] => []
  | v :: rest => prettyAt level v :: prettyItems level rest

/-- The indented texts of the members of an object. -/
def prettyMembers (level : Nat) : List (String × Json) → List String
  | [] => []
  | (key, v) :: rest => (string key ++ ": " ++ prettyAt level v) :: prettyMembers level rest

end

end Writer

/-- The text of a value on one line. -/
def compact (v : Json) : String := Writer.compact v

/-- The indented text of a value. -/
def pretty (v : Json) : String := Writer.prettyAt 0 v

end ModelRegistry.Json
