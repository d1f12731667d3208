import ModelRegistry.Number.Integer
import ModelRegistry.Number.Shortest

/-!
# ModelRegistry.Toml.Writer

TOML text of tables with simple values, a line for each key. A string is written in
the first of the four forms that needs no escape, and with escapes if none does.
-/

namespace ModelRegistry.Toml

open Number

/-- The forms of strings. -/
inductive Quoting where
  | basic | literal | basicLines | literalLines
  deriving DecidableEq, Repr

namespace Quoting

/-- The quotes on either side. -/
def mark : Quoting → String
  | .basic => "\""
  | .literal => "'"
  | .basicLines => "\"\"\""
  | .literalLines => "'''"

/-- Whether the form has several lines. -/
def isLines : Quoting → Bool
  | .basicLines | .literalLines => true
  | _ => false

end Quoting

/-- Whether a character can be written only as an escape. -/
def needsEscape (c : Char) : Bool :=
  (c.toNat < 0x20 && c ≠ '\t' && c ≠ '\n') || c.toNat = 0x7F

/-- The length of the longest run of a character; `run` is the length of the one that reaches
the text. -/
def longestRun (c : Char) (run : Nat) : List Char → Nat
  | [] => run
  | d :: rest => if d = c then longestRun c (run + 1) rest else max run (longestRun c 0 rest)

/-- The form in which a text is written. -/
def quotingFor (cs : List Char) : Quoting :=
  let plain := !cs.any needsEscape
  let unbroken := !cs.contains '\n'
  let doubles := longestRun '"' 0 cs
  let singles := longestRun '\'' 0 cs
  if plain && unbroken && !cs.contains '\\' && doubles = 0 then .basic
  else if plain && unbroken && singles = 0 then .literal
  else if plain && !cs.contains '\\' && doubles ≤ 2 then .basicLines
  else if plain && singles ≤ 2 then .literalLines
  else if unbroken then .basic
  else .basicLines

/-- An escape by number: four hexadecimal digits, upper case. -/
def numberedEscape (c : Char) : List Char :=
  let digit (n : Nat) := (Nat.digitChar (n % 16)).toUpper
  let n := c.toNat
  ['\\', 'u', digit (n / 4096), digit (n / 256), digit (n / 16), digit n]

/-- The text between the quotes of a form with escapes. In a form of several lines up to two
quotes in a row stand as they are; `quotes` counts those just written. -/
def escaped (lines : Bool) (quotes : Nat) : List Char → List Char
  | [] => []
  | '"' :: rest =>
    if lines && quotes < 2 then '"' :: escaped lines (quotes + 1) rest
    else '\\' :: '"' :: escaped lines 0 rest
  | c :: rest =>
    let written :=
      if c = '\x08' then ['\\', 'b']
      else if c = '\t' then ['\\', 't']
      else if c = '\n' then if lines then ['\n'] else ['\\', 'n']
      else if c = '\x0c' then ['\\', 'f']
      else if c = '\r' then ['\\', 'r']
      else if c = '\\' then ['\\', '\\']
      else if needsEscape c then numberedEscape c
      else [c]
    written ++ escaped lines 0 rest

/-- A text as a TOML string. Where it has lines of its own, the quotes stand on a line of
theirs. -/
def stringText (s : String) : String :=
  let cs := s.toList
  let quoting := quotingFor cs
  let start := if quoting.isLines && cs.contains '\n' then "\n" else ""
  let body :=
    match quoting with
    | .basic | .basicLines => escaped quoting.isLines 0 cs
    | .literal | .literalLines => cs
  quoting.mark ++ start ++ String.ofList body ++ quoting.mark

/-- A simple value. -/
inductive Simple where
  | string (value : String)
  | size (value : UInt64)
  | float (value : Binary64)
  deriving DecidableEq, Repr

/-- The text of a simple value. A size that does not fit 64 bits with a sign has none. -/
def Simple.text? : Simple → Option String
  | .string s => some (stringText s)
  | .size n => if n.toNat < signedBound then some (toString n.toNat) else none
  | .float x => some x.settingText

/-- The text of a table of simple values. -/
def tableText? (entries : List (String × Simple)) : Option String := do
  let lines ← entries.mapM fun (key, value) => do
    return key ++ " = " ++ (← value.text?) ++ "\n"
  return String.join lines

end ModelRegistry.Toml
