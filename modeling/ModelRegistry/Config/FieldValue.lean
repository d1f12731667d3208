import ModelRegistry.Json.Basic

/-!
# ModelRegistry.Config.FieldValue

The types that a configuration class can give to a field, and typed values read
from raw JSON. Reading never converts more than an integer into a float: a float
is no integer, and a digit string is no number. Everything is a value of the
type `any`.
-/

namespace ModelRegistry

open Number

/-- The type of a configuration field. -/
inductive FieldType where
  | bool
  | integer
  /-- Accepts integers too. -/
  | float
  | string
  | integerList
  | stringList
  | object
  | any
  deriving DecidableEq, Repr

namespace FieldType

/-- All field types. -/
def all : List FieldType :=
  [.bool, .integer, .float, .string, .integerList, .stringList, .object, .any]

/-- The type as messages name it. -/
def name : FieldType → String
  | .bool => "bool"
  | .integer => "integer"
  | .float => "float"
  | .string => "string"
  | .integerList => "integer list"
  | .stringList => "string list"
  | .object => "object"
  | .any => "any"

/-- The type as schema files write it. -/
def key : FieldType → String
  | .integerList => "integer_list"
  | .stringList => "string_list"
  | t => t.name

/-- The type that schema files write so. -/
def ofKey? (s : String) : Option FieldType := all.find? (·.key == s)

end FieldType

/-- A typed value of a configuration field. -/
inductive FieldValue where
  | bool (value : Bool)
  | integer (value : Int)
  | float (value : Binary64)
  | string (value : String)
  | integerList (values : List Int)
  | stringList (values : List String)
  | object (members : List (String × Json))
  | any (value : Json)
  deriving DecidableEq

namespace FieldValue

/-- The raw value read at a type, if it fits. -/
def ofJson? : FieldType → Json → Option FieldValue
  | .bool, v => v.bool?.map .bool
  | .integer, v => v.int64?.map .integer
  | .float, v => v.float?.map .float
  | .string, v => v.string?.map .string
  | .integerList, v => (v.array?.bind (·.mapM Json.int64?)).map .integerList
  | .stringList, v => (v.array?.bind (·.mapM Json.string?)).map .stringList
  | .object, v => v.object?.map .object
  | .any, v => some (.any v)

/-- The value as raw JSON. -/
def toJson : FieldValue → Json
  | .bool b => .bool b
  | .integer n => .int n
  | .float x => .float x
  | .string s => .string s
  | .integerList ns => .array (ns.map .int)
  | .stringList ss => .strings ss
  | .object members => .object members
  | .any v => v

/-- The type at which the value was read. -/
def type : FieldValue → FieldType
  | .bool _ => .bool
  | .integer _ => .integer
  | .float _ => .float
  | .string _ => .string
  | .integerList _ => .integerList
  | .stringList _ => .stringList
  | .object _ => .object
  | .any _ => .any

/-- The integer in the value. -/
def int? : FieldValue → Option Int
  | .integer n => some n
  | .any v => v.int64?
  | _ => none

/-- The number in the value, as a float. -/
def float? : FieldValue → Option Binary64
  | .float x => some x
  | .integer n => some (.ofInt n)
  | .any v => v.float?
  | _ => none

/-- The boolean in the value. -/
def bool? : FieldValue → Option Bool
  | .bool b => some b
  | .any v => v.bool?
  | _ => none

/-- The text in the value. -/
def string? : FieldValue → Option String
  | .string s => some s
  | .any v => v.string?
  | _ => none

end FieldValue

end ModelRegistry
