import ModelRegistry.Json.Basic

/-!
# ModelRegistry.Document

Structured text as written, before anything is made of it. A document keeps what
a value forgets: members stand in the order of the text and a key may repeat, so
that a record can refuse a field given twice. A part that is well formed but has
no value (a number out of range, half of a surrogate pair, a nesting too deep) is
`unreadable`: it does no harm where a record ignores it, and spoils whatever
reads it.

The second half reads records out of documents. A record with the fields
`f₁ … fₙ` is read from an object, or from an array that gives the fields by
position.
-/

namespace ModelRegistry

open Number

/-- A structured text as written. -/
inductive Document where
  | null
  | bool (value : Bool)
  | integer (value : Int)
  | float (value : Binary64)
  | string (value : String)
  | array (items : List Document)
  | object (members : List (String × Document))
  | unreadable

namespace Document

/-- What messages say in the place of an account of the fault in a text. -/
def faultDetail : String := "<detail>"

mutual

/-- The value that the document writes; of a repeated key the last one counts. -/
def toJson? : Document → Option Json
  | .null => some .null
  | .bool b => some (.bool b)
  | .integer n => some (.int n)
  | .float x => some (.float x)
  | .string s => some (.string s)
  | .array items => (itemsToJson? items).map .array
  | .object members => (membersToJson? members).map (fun ms => .object (Members.ofList ms))
  | .unreadable => none

/-- The values of a list of documents. -/
def itemsToJson? : List Document → Option (List Json)
  | [] => some []
  | d :: rest => do return (← toJson? d) :: (← itemsToJson? rest)

/-- The values of a list of members, in their order and with their repetitions. -/
def membersToJson? : List (String × Document) → Option (List (String × Json))
  | [] => some []
  | (key, d) :: rest => do return (key, ← toJson? d) :: (← membersToJson? rest)

end

mutual

/-- A value as a document. -/
def ofJson : Json → Document
  | .null => .null
  | .bool b => .bool b
  | .number (.integer n) => .integer n
  | .number (.float x) => .float x
  | .string s => .string s
  | .array items => .array (ofItems items)
  | .object members => .object (ofMembers members)

/-- A list of values as documents. -/
def ofItems : List Json → List Document
  | [] => []
  | v :: rest => ofJson v :: ofItems rest

/-- The members of an object as documents. -/
def ofMembers : List (String × Json) → List (String × Document)
  | [] => []
  | (key, v) :: rest => (key, ofJson v) :: ofMembers rest

end

/-! ## Simple readings -/

/-- The text of a string. -/
def string? : Document → Option String
  | .string s => some s
  | _ => none

/-- The value of a boolean. -/
def bool? : Document → Option Bool
  | .bool b => some b
  | _ => none

/-- A size: an integer of 64 bits that is not negative. -/
def size? : Document → Option UInt64
  | .integer n => if 0 ≤ n ∧ n < UInt64.size then some (UInt64.ofNat n.toNat) else none
  | _ => none

/-- A real number; an integer is the nearest float. -/
def real? : Document → Option Binary64
  | .integer n => some (.ofInt n)
  | .float x => some x
  | _ => none

/-- The items of an array. -/
def array? : Document → Option (List Document)
  | .array items => some items
  | _ => none

/-- An array whose items are all read by `item?`. -/
def list? {α : Type} (item? : Document → Option α) (d : Document) : Option (List α) :=
  d.array?.bind fun items => items.mapM item?

/-- A value that null leaves out. -/
def optional? {α : Type} (value? : Document → Option α) : Document → Option (Option α)
  | .null => some none
  | d => (value? d).map some

/-! ## Records -/

/-- What tells the two notations for documents apart: how the case of an enumeration may
write that it carries nothing, and whether an array that gives a record by position may go on
after the last field. -/
structure Notation where
  emptyPayload : Document → Bool
  surplusItems : Bool

/-- In JSON a case without payload carries null, and every item is a field. -/
def Notation.json : Notation where
  emptyPayload
    | .null => true
    | _ => false
  surplusItems := false

/-- In TOML, which has no null, a case without payload carries an empty table or array, and
items after the last field are left unread. -/
def Notation.toml : Notation where
  emptyPayload
    | .object [] | .array [] => true
    | _ => false
  surplusItems := true

/-- The name of a case of an enumeration: a string, or an object whose only key is the name
and whose value says that nothing is carried. -/
def case? (n : Notation) : Document → Option String
  | .string s => some s
  | .object [(key, payload)] => if n.emptyPayload payload then some key else none
  | _ => none

/-- The fields of a record, found by name. A field that is given twice has no reading. -/
def fieldsByName? (names : List String) (members : List (String × Document)) :
    Option (List (Option Document)) :=
  names.mapM fun name =>
    match members.filter (·.1 == name) with
    | [] => some none
    | [(_, d)] => some (some d)
    | _ => none

/-- The fields of a record, found by position. -/
def fieldsByPosition? (n : Notation) (names : List String) (items : List Document) :
    Option (List (Option Document)) :=
  if items.length ≤ names.length ∨ n.surplusItems then
    some ((List.range names.length).map (items[·]?))
  else none

/-- The fields of a record with these names, in this order; a field that is not given is
`none`. -/
def record? (n : Notation) (names : List String) : Document → Option (List (Option Document))
  | .object members => fieldsByName? names members
  | .array items => fieldsByPosition? n names items
  | _ => none

/-- A field that must be given. -/
def required? {α : Type} (value? : Document → Option α) : Option Document → Option α
  | some d => value? d
  | none => none

/-- A field that stands for `fallback` when it is not given. -/
def withDefault? {α : Type} (fallback : α) (value? : Document → Option α) :
    Option Document → Option α
  | some d => value? d
  | none => some fallback

end Document

end ModelRegistry
