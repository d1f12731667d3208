import ModelRegistry.Speculative.Adapter

/-!
# ModelRegistry.Speculative.Role

What an architecture may do in a speculative pair, and its declaration of that:
the role together with the adapter for its hidden states.
-/

namespace ModelRegistry

/-- What an architecture may do in a speculative pair. -/
inductive Role where
  | draftCapable
  | verifyCapable
  | both
  | none
  deriving DecidableEq, Repr

namespace Role

/-- All roles. -/
def all : List Role := [.draftCapable, .verifyCapable, .both, .none]

/-- The name of a role. -/
def name : Role → String
  | .draftCapable => "draft-capable"
  | .verifyCapable => "verify-capable"
  | .both => "both"
  | .none => "none"

/-- Whether an architecture of this role may draft. -/
def canDraft : Role → Bool
  | .draftCapable | .both => true
  | _ => false

/-- Whether an architecture of this role may verify drafts. -/
def canVerify : Role → Bool
  | .verifyCapable | .both => true
  | _ => false

/-- Reads a role. -/
def ofDocument? (n : Document.Notation) (d : Document) : Option Role :=
  (d.case? n).bind fun key => all.find? (·.name == key)

end Role

/-- What an architecture declares about speculative decoding. -/
structure SpeculativeDeclaration where
  role : Role
  adapter : Adapter
  deriving DecidableEq, Repr

namespace SpeculativeDeclaration

/-- The declaration as JSON. -/
def toJson (s : SpeculativeDeclaration) : Json :=
  .object [("role", .string s.role.name), ("hidden_state", s.adapter.toJson)]

/-- Reads a declaration. -/
def ofDocument? (n : Document.Notation) (d : Document) : Option SpeculativeDeclaration := do
  let [role, adapter] ← d.record? n ["role", "hidden_state"] | none
  return {
    role := ← Document.required? (Role.ofDocument? n) role
    adapter := ← Document.required? (Adapter.ofDocument? n) adapter }

end SpeculativeDeclaration

end ModelRegistry
