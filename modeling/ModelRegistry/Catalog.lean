import ModelRegistry.LoaderReference
import ModelRegistry.Table

/-!
# ModelRegistry.Catalog

The catalog of implementations that loader references lead to. The one that comes
with the library is a table: modules, and in each of them named implementations with
the kind of their entry point.

A program may bring a catalog of its own, of which nothing is known but its answers;
they may change from one look-up to the next, where modules come and go while the
program runs.
-/

namespace ModelRegistry

/-- The shape of an implementation's entry point. -/
inductive ImplementationKind where
  | causalLM
  | conditionalGeneration
  | encoder
  | encoderDecoder
  | draftHead
  deriving DecidableEq, Repr

namespace ImplementationKind

/-- All kinds. -/
def all : List ImplementationKind :=
  [.causalLM, .conditionalGeneration, .encoder, .encoderDecoder, .draftHead]

/-- The name of a kind. -/
def name : ImplementationKind → String
  | .causalLM => "causal-lm"
  | .conditionalGeneration => "conditional-generation"
  | .encoder => "encoder"
  | .encoderDecoder => "encoder-decoder"
  | .draftHead => "draft-head"

/-- The kind of this name. -/
def ofName? (s : String) : Option ImplementationKind := all.find? (·.name == s)

end ImplementationKind

/-- An implementation that was found. -/
structure Implementation where
  reference : LoaderReference
  kind : ImplementationKind
  deriving DecidableEq, Repr

/-- Why a reference leads nowhere. -/
inductive LocateError where
  | moduleNotFound (path : String)
  | classNotFound (path name : String)
  deriving DecidableEq, Repr

/-- The text of the error. -/
def LocateError.message : LocateError → String
  | .moduleNotFound path => "module " ++ path ++ " not found"
  | .classNotFound path name => "module " ++ path ++ " has no class " ++ name

/-- A table of implementations: the modules, and what each of them holds. -/
structure StaticCatalog where
  modules : Table String (Table String ImplementationKind)
  deriving DecidableEq, Repr

namespace StaticCatalog

/-- A table without modules. -/
def empty : StaticCatalog := ⟨[]⟩

/-- The table with one more implementation, in place of an earlier one of that name. -/
def insert (path name : String) (kind : ImplementationKind) (c : StaticCatalog) : StaticCatalog :=
  ⟨c.modules.put path (((c.modules.lookup path).getD []).put name kind)⟩

/-- The table of a list of implementations. -/
def ofList (entries : List (String × String × ImplementationKind)) : StaticCatalog :=
  entries.foldl (fun c entry => c.insert entry.1 entry.2.1 entry.2.2) empty

/-- Follows a reference: first to its module, then to the name in it. -/
def locate (c : StaticCatalog) (r : LoaderReference) : Except LocateError Implementation :=
  match c.modules.lookup r.path with
  | none => .error (.moduleNotFound r.path)
  | some implementations =>
    match implementations.lookup r.name with
    | none => .error (.classNotFound r.path r.name)
    | some kind => .ok ⟨r, kind⟩

/-- The implementations that come with the library. -/
def builtin : StaticCatalog := ofList [
  ("models::llama", "LlamaForCausalLM", .causalLM),
  ("models::mistral", "MistralForCausalLM", .causalLM),
  ("models::qwen3", "Qwen3ForCausalLM", .causalLM),
  ("models::eagle_llama", "EagleLlamaForCausalLM", .draftHead),
  ("models::eagle3", "Eagle3LlamaForCausalLM", .draftHead),
  ("models::qwen3_next", "Qwen3NextForCausalLM", .causalLM),
  ("models::qwen2_vl", "Qwen2VLForConditionalGeneration", .conditionalGeneration),
  ("models::qwen3_vl", "Qwen3VLForConditionalGeneration", .conditionalGeneration),
  ("models::qwen3_vl_moe", "Qwen3VLMoeForConditionalGeneration", .conditionalGeneration),
  ("models::omega17_vl_exp", "Omega17VLExpForConditionalGeneration", .conditionalGeneration),
  ("models::bert", "BertModel", .encoder),
  ("models::whisper", "WhisperForConditionalGeneration", .encoderDecoder)]

end StaticCatalog

/-- A catalog of implementations: its answers to the look-ups to come, by their place. -/
structure Catalog where
  answers : Nat → LoaderReference → Except LocateError Implementation

namespace Catalog

/-- The catalog that looks into a table. -/
def ofTable (table : StaticCatalog) : Catalog := ⟨fun _ => table.locate⟩

/-- A catalog that finds nothing. -/
def empty : Catalog := .ofTable .empty

/-- The catalog that comes with the library. -/
def builtin : Catalog := .ofTable .builtin

/-- Follows a reference. -/
def locate (c : Catalog) (r : LoaderReference) : Except LocateError Implementation :=
  c.answers 0 r

/-- The catalog after a look-up. -/
def afterLookup (c : Catalog) : Catalog := ⟨fun n => c.answers (n + 1)⟩

/-- The catalog answers every look-up as it answers the first one. -/
def Fixed (c : Catalog) : Prop := ∀ n, c.answers n = c.answers 0

/-- A fixed catalog is the same after every look-up. -/
theorem afterLookup_eq_self {c : Catalog} (h : c.Fixed) : c.afterLookup = c := by
  have hsame : c.afterLookup.answers = c.answers := funext fun n => (h (n + 1)).trans (h n).symm
  exact congrArg mk hsame

/-- A catalog that looks into a table is fixed. -/
theorem fixed_ofTable (table : StaticCatalog) : (ofTable table).Fixed := fun _ => rfl

end Catalog

end ModelRegistry
