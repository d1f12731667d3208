import ModelRegistry.Document
import ModelRegistry.Number.Decimal
import ModelRegistry.Text.Hex

/-!
# ModelRegistry.Toml.Scalar

The smallest parts of a TOML text: blanks, comments and the ends of lines;
strings in their four forms; numbers; dates and times. A reader takes the
characters that are left and returns what it read with what is left then, or
nothing if the text is malformed.

No value here is made of dates. A date is an object with its text under
`dateKey`, so that it fits none of the types that are read from strings.
-/

namespace ModelRegistry.Toml

open Number Text

/-! ## Blanks, comments and ends of lines -/

/-- The blanks within a line. -/
def isSpace (c : Char) : Bool := c == ' ' || c == '\t'

/-- The text without the blanks before it. -/
def skipSpace (cs : List Char) : List Char := cs.dropWhile isSpace

/-- The characters that may stand as they are in comments and strings: all but the controls,
of which only the tabulator may. -/
def isPlain (c : Char) : Bool := c == '\t' || (0x20 ≤ c.toNat && c.toNat ≠ 0x7F)

/-- What follows an end of line. -/
def newline? : List Char → Option (List Char)
  | '\n' :: rest => some rest
  | '\r' :: '\n' :: rest => some rest
  | _ => none

/-- The text without the comment before it. -/
def skipComment : List Char → List Char
  | '#' :: rest => rest.dropWhile isPlain
  | cs => cs

/-- What follows the rest of a line that holds only blanks and a comment. The text may end
there. -/
def lineEnd? (cs : List Char) : Option (List Char) :=
  match skipComment (skipSpace cs) with
  | [] => some []
  | cs => newline? cs

/-- The text without the blanks and ends of lines before it, and without the comments if
`comments` allows them. `inside` tells whether the text starts within a comment. -/
def skipLines (comments inside : Bool) : List Char → List Char
  | [] => []
  | '\n' :: rest => skipLines comments false rest
  | '\r' :: '\n' :: rest => skipLines comments false rest
  | c :: rest =>
    if isSpace c || (inside && isPlain c) then skipLines comments inside rest
    else if comments && c == '#' then skipLines comments true rest
    else c :: rest

/-! ## Strings -/

/-- The character with the number that `count` hexadecimal digits write. -/
def numberedChar? (count : Nat) (cs : List Char) : Option (Char × List Char) := do
  let ds := cs.take count
  if ds.length < count then none
  let n ← hexNumber? ds
  if n.isValidChar then some (Char.ofNat n, cs.drop count) else none

/-- Reads an escape after its backslash. -/
def escape? : List Char → Option (Char × List Char)
  | 'b' :: rest => some ('\x08', rest)
  | 't' :: rest => some ('\t', rest)
  | 'n' :: rest => some ('\n', rest)
  | 'f' :: rest => some ('\x0c', rest)
  | 'r' :: rest => some ('\r', rest)
  | '"' :: rest => some ('"', rest)
  | '\\' :: rest => some ('\\', rest)
  | 'u' :: rest => numberedChar? 4 rest
  | 'U' :: rest => numberedChar? 8 rest
  | _ => none

/-- The text of the characters of a string, which come last first. -/
def finish (done : List Char) : String := String.ofList done.reverse

/-- Reads a string of one line after its opening quote. The fuel bounds the number of
characters. -/
def basic? (fuel : Nat) (done cs : List Char) : Option (String × List Char) :=
  match fuel with
  | 0 => none
  | fuel + 1 =>
    match cs with
    | '"' :: rest => some (finish done, rest)
    | '\\' :: rest => (escape? rest).bind fun (c, rest) => basic? fuel (c :: done) rest
    | c :: rest => if isPlain c then basic? fuel (c :: done) rest else none
    | [] => none

/-- Reads a string of one line without escapes after its opening quote. -/
def literal? (done : List Char) : List Char → Option (String × List Char)
  | '\'' :: rest => some (finish done, rest)
  | c :: rest => if isPlain c then literal? (c :: done) rest else none
  | [] => none

/-- Ends a string of several lines at a run of quotes. Three of them close it; one or two
more before those belong to the text. -/
def closing? (quote : Char) (done : List Char) : List Char → Option (String × List Char)
  | a :: b :: c :: rest =>
    if a = quote ∧ b = quote ∧ c = quote then
      match rest with
      | d :: e :: more =>
        if d = quote ∧ e = quote then some (finish (quote :: quote :: done), more)
        else if d = quote then some (finish (quote :: done), e :: more)
        else some (finish done, rest)
      | [d] => if d = quote then some (finish (quote :: done), []) else some (finish done, rest)
      | [] => some (finish done, rest)
    else none
  | _ => none

/-- Reads a string of several lines after its opening quotes. A backslash at the end of a line
joins it to the next text, without the blanks between them. -/
def basicLines? (fuel : Nat) (done cs : List Char) : Option (String × List Char) :=
  match fuel with
  | 0 => none
  | fuel + 1 =>
    match closing? '"' done cs with
    | some closed => some closed
    | none =>
      match cs with
      | '\\' :: rest =>
        match newline? (skipSpace rest) with
        | some rest => basicLines? fuel done (skipLines false false rest)
        | none => (escape? rest).bind fun (c, rest) => basicLines? fuel (c :: done) rest
      | c :: rest =>
        match newline? cs with
        | some rest => basicLines? fuel ('\n' :: done) rest
        | none => if isPlain c then basicLines? fuel (c :: done) rest else none
      | [] => none

/-- Reads a string of several lines without escapes after its opening quotes. -/
def literalLines? (fuel : Nat) (done cs : List Char) : Option (String × List Char) :=
  match fuel with
  | 0 => none
  | fuel + 1 =>
    match closing? '\'' done cs with
    | some closed => some closed
    | none =>
      match cs with
      | c :: rest =>
        match newline? cs with
        | some rest => literalLines? fuel ('\n' :: done) rest
        | none => if isPlain c then literalLines? fuel (c :: done) rest else none
      | [] => none

/-- Reads a string of any form. An end of line right after three opening quotes is not part of
the text. -/
def string? (cs : List Char) : Option (String × List Char) :=
  match cs with
  | '"' :: '"' :: '"' :: rest => basicLines? cs.length [] ((newline? rest).getD rest)
  | '"' :: rest => basic? cs.length [] rest
  | '\'' :: '\'' :: '\'' :: rest => literalLines? cs.length [] ((newline? rest).getD rest)
  | '\'' :: rest => literal? [] rest
  | _ => none

/-! ## Numbers -/

/-- Reads digits, at least one; single underscores may stand between them. -/
def digits? (base : Nat) : List Char → Option (List Char × List Char)
  | [] => none
  | [c] => if isDigitOf base c then some ([c], []) else none
  | c :: '_' :: rest =>
    if isDigitOf base c then (digits? base rest).map fun (ds, rest) => (c :: ds, rest) else none
  | c :: d :: rest =>
    if !isDigitOf base c then none
    else if isDigitOf base d then (digits? base (d :: rest)).map fun (ds, rest) => (c :: ds, rest)
    else some ([c], d :: rest)

/-- A whole number, if it fits 64 bits with a sign. -/
def integer? (n : Int) : Option Document :=
  if IsSigned n then some (.integer n) else none

/-- Reads an unsigned whole number in the base, after the mark of the base. -/
def integerIn? (base : Nat) (cs : List Char) : Option (Document × List Char) := do
  let (ds, rest) ← digits? base cs
  return (← integer? (numberOf base ds), rest)

/-- Reads the whole part of a number. Only zero itself starts with a zero. -/
def wholePart? : List Char → Option (List Char × List Char)
  | '0' :: rest => some (['0'], rest)
  | cs => digits? 10 cs

/-- Reads the digits after a point, if there is a point. -/
def fraction? : List Char → Option (Option (List Char) × List Char)
  | '.' :: rest => (digits? 10 rest).map fun (ds, rest) => (some ds, rest)
  | cs => some (none, cs)

/-- Reads a sign, if there is one; true stands for minus. -/
def sign : List Char → Bool × List Char
  | '+' :: rest => (false, rest)
  | '-' :: rest => (true, rest)
  | cs => (false, cs)

/-- Reads an exponent, if there is one. -/
def exponent? : List Char → Option (Option Int × List Char)
  | [] => some (none, [])
  | c :: rest =>
    if c = 'e' ∨ c = 'E' then
      let (negative, rest) := sign rest
      (digits? 10 rest).map fun (ds, rest) =>
        (some (if negative then -(digitsValue ds : Int) else digitsValue ds), rest)
    else some (none, c :: rest)

/-- A decimal as a float. One above the largest float is refused; one below the smallest is
minus infinity. -/
def decimal? (negative : Bool) (whole fraction : List Char) (exponent : Int) : Option Document :=
  let x := Binary64.ofDecimal negative (digitsValue (whole ++ fraction))
    (exponent - fraction.length)
  if !negative ∧ !x.isFinite then none else some (.float x)

/-- Reads a decimal number after its sign. With a point or an exponent it is a float. -/
def decimalNumber? (negative : Bool) (cs : List Char) : Option (Document × List Char) := do
  let (whole, rest) ← wholePart? cs
  let (fraction, rest) ← fraction? rest
  let (exponent, rest) ← exponent? rest
  let d ← match fraction, exponent with
    | none, none =>
      let n : Int := digitsValue whole
      integer? (if negative then -n else n)
    | _, _ => decimal? negative whole (fraction.getD []) (exponent.getD 0)
  return (d, rest)

/-- Infinity. -/
def infinity (negative : Bool) : Document :=
  .float (.ofMagnitude negative Format.double.infinityWord)

/-- The float that is no number. -/
def notANumber (negative : Bool) : Document :=
  .float (.ofMagnitude negative (Format.double.infinityWord + Nat.pow 2 51))

/-- Reads a number. -/
def number? : List Char → Option (Document × List Char)
  | '0' :: 'x' :: rest => integerIn? 16 rest
  | '0' :: 'o' :: rest => integerIn? 8 rest
  | '0' :: 'b' :: rest => integerIn? 2 rest
  | cs =>
    match sign cs with
    | (negative, 'i' :: 'n' :: 'f' :: rest) => some (infinity negative, rest)
    | (negative, 'n' :: 'a' :: 'n' :: rest) => some (notANumber negative, rest)
    | (negative, rest) => decimalNumber? negative rest

/-! ## Dates and times -/

/-- The key under which a date holds its text. -/
def dateKey : String := "$date"

/-- Reads a number of exactly `count` digits between two bounds. -/
def field? (count low high : Nat) (cs : List Char) : Option (Nat × List Char) :=
  let ds := cs.take count
  let n := digitsValue ds
  if ds.length = count ∧ ds.all Char.isDigit ∧ low ≤ n ∧ n ≤ high then some (n, cs.drop count)
  else none

/-- Reads one given character. -/
def mark? (c : Char) : List Char → Option (List Char)
  | d :: rest => if d = c then some rest else none
  | [] => none

/-- The number of days of a month. -/
def daysOf (year month : Nat) : Nat :=
  if month = 2 then
    if year % 4 = 0 ∧ (year % 100 ≠ 0 ∨ year % 400 = 0) then 29 else 28
  else if month = 4 ∨ month = 6 ∨ month = 9 ∨ month = 11 then 30
  else 31

/-- What follows a date. -/
def date? (cs : List Char) : Option (List Char) := do
  let (year, cs) ← field? 4 0 9999 cs
  let cs ← mark? '-' cs
  let (month, cs) ← field? 2 1 12 cs
  let cs ← mark? '-' cs
  let (_, cs) ← field? 2 1 (daysOf year month) cs
  return cs

/-- What follows a time of day. -/
def time? (cs : List Char) : Option (List Char) := do
  let (_, cs) ← field? 2 0 23 cs
  let cs ← mark? ':' cs
  let (_, cs) ← field? 2 0 59 cs
  let cs ← mark? ':' cs
  let (_, cs) ← field? 2 0 60 cs
  match cs with
  | '.' :: c :: rest => return if c.isDigit then rest.dropWhile Char.isDigit else cs
  | _ => return cs

/-- What follows the offset of a time, if it has one. -/
def skipOffset (cs : List Char) : List Char :=
  match cs with
  | 'Z' :: rest | 'z' :: rest => rest
  | '+' :: rest | '-' :: rest =>
    let offset? := do
      let (_, rest) ← field? 2 0 23 rest
      let rest ← mark? ':' rest
      let (_, rest) ← field? 2 0 59 rest
      return rest
    offset?.getD cs
  | cs => cs

/-- What follows the time of a date, if it has one. -/
def skipTime (cs : List Char) : List Char :=
  match cs with
  | 'T' :: rest | 't' :: rest | ' ' :: rest => ((time? rest).map skipOffset).getD cs
  | cs => cs

/-- What follows a date with or without a time, or a time alone. -/
def moment? (cs : List Char) : Option (List Char) :=
  match (date? cs).map skipTime with
  | some rest => some rest
  | none => time? cs

/-- Reads a date, a time or a number. -/
def dateOrNumber? (cs : List Char) : Option (Document × List Char) :=
  match moment? cs with
  | some rest =>
    some (.object [(dateKey, .string (String.ofList (cs.take (cs.length - rest.length))))], rest)
  | none => number? cs

end ModelRegistry.Toml
