import ModelRegistry.Number.Binary
import ModelRegistry.Number.Integer

/-!
# ModelRegistry.Json.Basic

JSON values. A number is an integer or a 64-bit float, and the two are told
apart for good: `1` and `1.0` are different values. Integers read from text lie
between `-2^63` and `2^64 - 1`; what a reader meets beyond that is a float.

An object is a list of members. Objects that are read from text have each key
once and are sorted by key (`Members.insert`), so that two of them are equal
exactly when they have the same value under every key.
-/

namespace ModelRegistry

open Number

/-! ## Members -/

/-- The members of an object: values under keys. -/
abbrev Members (α : Type) := List (String × α)

namespace Members

variable {α : Type}

/-- The members with `value` under `key`, replacing what was there. Sorted members stay
sorted. -/
def insert (key : String) (value : α) : Members α → Members α
  | [] => [(key, value)]
  | (k, v) :: rest =>
    if key = k then (key, value) :: rest
    else if key < k then (key, value) :: (k, v) :: rest
    else (k, v) :: insert key value rest

/-- The sorted members of a list in which a later value replaces an earlier one. -/
def ofList (entries : List (String × α)) : Members α :=
  entries.foldl (fun members entry => insert entry.1 entry.2 members) []

/-- The keys, in order. -/
def keys (members : Members α) : List String := members.map (·.1)

theorem lookup_insert (key other : String) (value : α) (members : Members α) :
    (insert key value members).lookup other =
      if other = key then some value else members.lookup other := by
  induction members with
  | nil => grind [insert]
  | cons entry rest ih =>
    obtain ⟨k, v⟩ := entry
    grind [insert]

end Members

/-! ## Values -/

/-- A JSON number. -/
inductive JsonNumber where
  | integer (value : Int)
  | float (value : Binary64)
  deriving DecidableEq, Repr

/-- A JSON value. -/
inductive Json where
  | null
  | bool (value : Bool)
  | number (value : JsonNumber)
  | string (value : String)
  | array (items : List Json)
  | object (members : List (String × Json))

namespace Json

/-- A raw JSON object. -/
abbrev Object := Members Json

/-- An integer. -/
def int (n : Int) : Json := .number (.integer n)

/-- A float; what is not finite has no JSON number and is null. -/
def float (x : Binary64) : Json := if x.isFinite then .number (.float x) else .null

/-- A list of strings. -/
def strings (xs : List String) : Json := .array (xs.map .string)

/-- Whether the value is null. -/
def isNull : Json → Bool
  | .null => true
  | _ => false

/-- The kinds of JSON values, as messages name them. -/
inductive Kind where
  | null | bool | integer | float | string | array | object
  deriving DecidableEq, Repr

/-- The name of a kind. -/
def Kind.name : Kind → String
  | .null => "null"
  | .bool => "bool"
  | .integer => "integer"
  | .float => "float"
  | .string => "string"
  | .array => "array"
  | .object => "object"

/-- The kind of a value. -/
def kind : Json → Kind
  | .null => .null
  | .bool _ => .bool
  | .number (.integer _) => .integer
  | .number (.float _) => .float
  | .string _ => .string
  | .array _ => .array
  | .object _ => .object

/-- The boolean, if the value is one. -/
def bool? : Json → Option Bool
  | .bool b => some b
  | _ => none

/-- The integer, if the value is one of the 64-bit signed integers. -/
def int64? : Json → Option Int
  | .number (.integer n) => if IsSigned n then some n else none
  | _ => none

/-- The number as a float; integers become the nearest float. -/
def float? : Json → Option Binary64
  | .number (.integer n) => some (.ofInt n)
  | .number (.float x) => some x
  | _ => none

/-- The text, if the value is a string. -/
def string? : Json → Option String
  | .string s => some s
  | _ => none

/-- The items, if the value is an array. -/
def array? : Json → Option (List Json)
  | .array items => some items
  | _ => none

/-- The members, if the value is an object. -/
def object? : Json → Option Object
  | .object members => some members
  | _ => none

/-! ## Equality -/

mutual

/-- Decides equality of values. -/
def decEq : (a b : Json) → Decidable (a = b)
  | .null, .null => isTrue rfl
  | .bool a, .bool b => decidable_of_iff (a = b) (by simp)
  | .number a, .number b => decidable_of_iff (a = b) (by simp)
  | .string a, .string b => decidable_of_iff (a = b) (by simp)
  | .array a, .array b => @decidable_of_iff _ (a = b) (by simp) (decEqItems a b)
  | .object a, .object b => @decidable_of_iff _ (a = b) (by simp) (decEqMembers a b)
  | .null, .bool _ | .null, .number _ | .null, .string _ | .null, .array _ | .null, .object _
  | .bool _, .null | .bool _, .number _ | .bool _, .string _ | .bool _, .array _
  | .bool _, .object _ | .number _, .null | .number _, .bool _ | .number _, .string _
  | .number _, .array _ | .number _, .object _ | .string _, .null | .string _, .bool _
  | .string _, .number _ | .string _, .array _ | .string _, .object _ | .array _, .null
  | .array _, .bool _ | .array _, .number _ | .array _, .string _ | .array _, .object _
  | .object _, .null | .object _, .bool _ | .object _, .number _ | .object _, .string _
  | .object _, .array _ => isFalse (by simp)

/-- Decides equality of lists of values. -/
def decEqItems : (a b : List Json) → Decidable (a = b)
  | [], [] => isTrue rfl
  | a :: as, b :: bs =>
    @decidable_of_iff _ (a = b ∧ as = bs) (by simp)
      (@instDecidableAnd _ _ (decEq a b) (decEqItems as bs))
  | [], _ :: _ | _ :: _, [] => isFalse (by simp)

/-- Decides equality of lists of members. -/
def decEqMembers : (a b : List (String × Json)) → Decidable (a = b)
  | [], [] => isTrue rfl
  | (k, a) :: as, (l, b) :: bs =>
    @decidable_of_iff _ (k = l ∧ a = b ∧ as = bs) (by simp [and_assoc])
      (@instDecidableAnd _ _ _
        (@instDecidableAnd _ _ (decEq a b) (decEqMembers as bs)))
  | [], _ :: _ | _ :: _, [] => isFalse (by simp)

end

instance : DecidableEq Json := decEq

end Json

end ModelRegistry
