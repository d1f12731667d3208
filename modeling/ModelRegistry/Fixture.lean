import ModelRegistry.Catalog
import ModelRegistry.Checkpoint
import ModelRegistry.Config.Builtin

/-!
# ModelRegistry.Fixture

Small classes, checkpoints and catalogs for trying things out.
-/

namespace ModelRegistry.Fixture

open FieldSpec ConfigClass

/-- A decoder class of five required fields and two with defaults. -/
def textClass (name : String) : ConfigClass :=
  (empty name).withFields [
    mandatory "hidden_size" .integer,
    mandatory "num_attention_heads" .integer,
    mandatory "num_hidden_layers" .integer,
    mandatory "intermediate_size" .integer,
    mandatory "vocab_size" .integer,
    floatOr "rms_norm_eps" 1 1000000,
    stringOr "hidden_act" "silu"]

/-- The class of a small vision tower. -/
def visionClass (name : String) : ConfigClass :=
  (empty name).withFields [
    mandatory "depth" .integer,
    mandatory "hidden_size" .integer,
    integerOr "patch_size" 14]

/-- The decoder class with a vision tower. -/
def visionLanguageClass (name : String) : ConfigClass :=
  (textClass name).withField (optional "image_token_id" .integer)
    |>.withSlot (.subtree "vision_config" (visionClass (name ++ "Vision")))

/-- A checkpoint of the decoder class. -/
def textCheckpoint (architecture : String) : Checkpoint :=
  (Checkpoint.ofArchitectures [architecture])
    |>.withField "hidden_size" (.int 64)
    |>.withField "num_attention_heads" (.int 2)
    |>.withField "num_hidden_layers" (.int 4)
    |>.withField "intermediate_size" (.int 128)
    |>.withField "vocab_size" (.int 256)

/-- A checkpoint of the class with a vision tower. -/
def visionLanguageCheckpoint (architecture : String) : Checkpoint :=
  (textCheckpoint architecture)
    |>.withField "image_token_id" (.int 250)
    |>.withField "vision_config" (.object
      [("depth", .int 2), ("hidden_size", .int 32), ("patch_size", .int 14)])

/-- The module of the implementations of fixtures. -/
def module : String := "models::fixture"

/-- The reference to the implementation of a fixture. -/
def reference (name : String) : LoaderReference := ⟨module, name⟩

/-- A catalog with an implementation for each name. -/
def catalog (names : List String) : Catalog :=
  .ofTable (.ofList (names.map fun name => (module, name, .causalLM)))

end ModelRegistry.Fixture
