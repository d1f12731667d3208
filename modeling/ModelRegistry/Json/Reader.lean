import ModelRegistry.Document
import ModelRegistry.Number.Decimal
import ModelRegistry.Text.Hex

/-!
# ModelRegistry.Json.Reader

From JSON text to documents and values. The grammar is the strict one: no
trailing comma, no comment, no mark before the text and nothing but blanks after
it, no raw control character in a string.

Parts that are well formed and still have no value are marked `unreadable`:
numbers beyond the range of floats, escapes that name half of a surrogate pair,
and arrays and objects below the depth `maxDepth`.
-/

namespace ModelRegistry.Json.Reader

open Number

/-- The deepest nesting of arrays and objects that is read. -/
def maxDepth : Nat := 127

/-- The blanks between the parts of a JSON text. -/
def isSpace (c : Char) : Bool := c == ' ' || c == '\t' || c == '\n' || c == '\r'

/-- The text without the blanks before it. -/
def skipSpace (cs : List Char) : List Char := cs.dropWhile isSpace

/-! ## Strings -/

/-- The number that four hexadecimal digits write. -/
def hexWord? (a b c d : Char) : Option Nat := Text.hexNumber? [a, b, c, d]

/-- Whether `n` is the first half of a surrogate pair. -/
def isHighSurrogate (n : Nat) : Bool := 0xD800 ≤ n && n ≤ 0xDBFF

/-- Whether `n` is the second half of a surrogate pair. -/
def isLowSurrogate (n : Nat) : Bool := 0xDC00 ≤ n && n ≤ 0xDFFF

/-- The character of an escape that is one letter. -/
def letterEscape? : Char → Option Char
  | '"' => some '"'
  | '\\' => some '\\'
  | '/' => some '/'
  | 'b' => some '\x08'
  | 'f' => some '\x0c'
  | 'n' => some '\n'
  | 'r' => some '\r'
  | 't' => some '\t'
  | _ => none

/-- Reads a string after its opening quote: the text, if all its escapes name characters, and
what follows the closing quote. `done` holds the characters so far, last first, and `sound`
whether each escape so far names a character. -/
def string? (done : List Char) (sound : Bool) : List Char → Option (Option String × List Char)
  | [] => none
  | '"' :: rest => some (if sound then some (String.ofList done.reverse) else none, rest)
  | '\\' :: 'u' :: a :: b :: c :: d :: '\\' :: 'u' :: e :: f :: g :: h :: rest =>
    match hexWord? a b c d with
    | none => none
    | some first =>
      match isHighSurrogate first, hexWord? e f g h with
      | true, some second =>
        if isLowSurrogate second then
          let code := (first - 0xD800) * 0x400 + (second - 0xDC00) + 0x10000
          string? (Char.ofNat code :: done) sound rest
        else string? done false ('\\' :: 'u' :: e :: f :: g :: h :: rest)
      | true, none => none
      | false, _ =>
        if isLowSurrogate first then
          string? done false ('\\' :: 'u' :: e :: f :: g :: h :: rest)
        else string? (Char.ofNat first :: done) sound ('\\' :: 'u' :: e :: f :: g :: h :: rest)
  | '\\' :: 'u' :: a :: b :: c :: d :: rest =>
    match hexWord? a b c d with
    | none => none
    | some code =>
      if isHighSurrogate code || isLowSurrogate code then string? done false rest
      else string? (Char.ofNat code :: done) sound rest
  | '\\' :: c :: rest =>
    match letterEscape? c with
    | some x => string? (x :: done) sound rest
    | none => none
  | '\\' :: [] => none
  | c :: rest => if c.toNat < 0x20 then none else string? (c :: done) sound rest
termination_by cs => cs.length

/-! ## Numbers -/

/-- A number literal: its sign, the digits before and after the point, and the exponent. A
literal without point and exponent has `none` for both. -/
structure Literal where
  negative : Bool
  whole : List Char
  fraction : Option (List Char)
  exponent : Option Int

/-- Splits off the leading decimal digits. -/
def spanDigits (cs : List Char) : List Char × List Char :=
  (cs.takeWhile Char.isDigit, cs.dropWhile Char.isDigit)

/-- The digits after a point, if there is a point; a point without digits is an error. -/
def fraction? : List Char → Option (Option (List Char) × List Char)
  | '.' :: rest =>
    match spanDigits rest with
    | ([], _) => none
    | (ds, rest) => some (some ds, rest)
  | cs => some (none, cs)

/-- The digits of an exponent after its sign. -/
def exponentDigits? (negative : Bool) (cs : List Char) : Option (Option Int × List Char) :=
  match spanDigits cs with
  | ([], _) => none
  | (ds, rest) =>
    let n : Int := digitsValue ds
    some (some (if negative then -n else n), rest)

/-- The exponent, if there is one; a mark without digits is an error. -/
def exponent? : List Char → Option (Option Int × List Char)
  | [] => some (none, [])
  | c :: rest =>
    if c = 'e' ∨ c = 'E' then
      match rest with
      | '+' :: rest => exponentDigits? false rest
      | '-' :: rest => exponentDigits? true rest
      | rest => exponentDigits? false rest
    else some (none, c :: rest)

/-- Reads a number literal. Only zero itself starts with a zero. -/
def literal? (cs : List Char) : Option (Literal × List Char) := do
  let (negative, cs) := match cs with
    | '-' :: rest => (true, rest)
    | cs => (false, cs)
  let (whole, rest) := spanDigits cs
  if whole.isEmpty ∨ (whole.head? = some '0' ∧ 1 < whole.length) then none
  let (fraction, rest) ← fraction? rest
  let (exponent, rest) ← exponent? rest
  return (⟨negative, whole, fraction, exponent⟩, rest)

/-- The number of a literal. Without point and exponent it is an integer if it fits 64 bits,
signed when negative; negative zero is a float. -/
def Literal.toDocument (l : Literal) : Document :=
  match l.fraction, l.exponent with
  | none, none =>
    let n := digitsValue l.whole
    if l.negative then
      if n ≠ 0 ∧ n ≤ signedBound then .integer (-n) else float
    else if n < UInt64.size then .integer n else float
  | _, _ => float
where
  /-- The literal as a float. -/
  float : Document :=
    match scaledDecimal? l.negative l.whole (l.fraction.getD []) (l.exponent.getD 0) with
    | some x => .float x
    | none => .unreadable

/-! ## Values -/

/-- A string as a document. -/
def stringDocument : Option String → Document
  | some s => .string s
  | none => .unreadable

/-- The object of some members, unless one of its keys has no reading. -/
def objectDocument (members : List (Option String × Document)) : Document :=
  match members.mapM fun member => member.1.map fun key => (key, member.2) with
  | some members => .object members
  | none => .unreadable

mutual

/-- Reads a value at the given depth. The fuel bounds the number of nested calls; twice the
length of the text is enough. -/
def value? (fuel depth : Nat) (cs : List Char) : Option (Document × List Char) :=
  match fuel with
  | 0 => none
  | fuel + 1 =>
    match skipSpace cs with
    | 'n' :: 'u' :: 'l' :: 'l' :: rest => some (.null, rest)
    | 't' :: 'r' :: 'u' :: 'e' :: rest => some (.bool true, rest)
    | 'f' :: 'a' :: 'l' :: 's' :: 'e' :: rest => some (.bool false, rest)
    | '"' :: rest => (string? [] true rest).map fun (s, rest) => (stringDocument s, rest)
    | '[' :: rest =>
      let items? := match skipSpace rest with
        | ']' :: rest => some ([], rest)
        | rest => items? fuel (depth + 1) [] rest
      items?.map fun (items, rest) =>
        (if depth < maxDepth then .array items else .unreadable, rest)
    | '{' :: rest =>
      let members? := match skipSpace rest with
        | '}' :: rest => some ([], rest)
        | rest => members? fuel (depth + 1) [] rest
      members?.map fun (members, rest) =>
        (if depth < maxDepth then objectDocument members else .unreadable, rest)
    | cs => (literal? cs).map fun (l, rest) => (l.toDocument, rest)

/-- Reads the items of an array, at least one, and the closing bracket. -/
def items? (fuel depth : Nat) (done : List Document) (cs : List Char) :
    Option (List Document × List Char) :=
  match fuel with
  | 0 => none
  | fuel + 1 =>
    match value? fuel depth cs with
    | none => none
    | some (d, rest) =>
      match skipSpace rest with
      | ',' :: rest => items? fuel depth (d :: done) rest
      | ']' :: rest => some ((d :: done).reverse, rest)
      | _ => none

/-- Reads the members of an object, at least one, and the closing brace. -/
def members? (fuel depth : Nat) (done : List (Option String × Document)) (cs : List Char) :
    Option (List (Option String × Document) × List Char) :=
  match fuel with
  | 0 => none
  | fuel + 1 =>
    match skipSpace cs with
    | '"' :: rest =>
      match string? [] true rest with
      | none => none
      | some (key, rest) =>
        match skipSpace rest with
        | ':' :: rest =>
          match value? fuel depth rest with
          | none => none
          | some (d, rest) =>
            match skipSpace rest with
            | ',' :: rest => members? fuel depth ((key, d) :: done) rest
            | '}' :: rest => some (((key, d) :: done).reverse, rest)
            | _ => none
        | _ => none
    | _ => none

end

end Reader

/-- The document that a JSON text writes. -/
def Reader.document? (text : String) : Option Document :=
  let cs := text.toList
  match Reader.value? (2 * cs.length + 2) 0 cs with
  | some (d, rest) => if (Reader.skipSpace rest).isEmpty then some d else none
  | none => none

/-- The value that a JSON text writes. -/
def parse? (text : String) : Option Json := (Reader.document? text).bind Document.toJson?

end ModelRegistry.Json
