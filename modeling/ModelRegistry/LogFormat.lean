/-!
# ModelRegistry.LogFormat

The two formats of log lines.
-/

namespace ModelRegistry

/-- A format of log lines. -/
inductive LogFormat where
  /-- For people. -/
  | pretty
  /-- For machines. -/
  | json
  deriving DecidableEq, Repr

namespace LogFormat

/-- The name of a format. -/
def name : LogFormat → String
  | .pretty => "Pretty"
  | .json => "Json"

/-- The format that a variable asks for. Only `json`, in any case, asks for JSON. No character
beyond ASCII has one of these letters as its lower case. -/
def ofVariable (value : Option String) : LogFormat :=
  if (value.getD "").toLower = "json" then .json else .pretty

end LogFormat

end ModelRegistry
