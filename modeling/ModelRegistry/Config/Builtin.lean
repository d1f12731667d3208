import ModelRegistry.Config.Mapping

/-!
# ModelRegistry.Config.Builtin

The configuration classes of the architectures that come with the library. They
share the fields of decoder-only transformers, of mixtures of experts and of the
vision towers; a class says what is its own.
-/

namespace ModelRegistry.ConfigClass

open Number FieldSpec

/-- A field that may be absent, with a whole number for checkpoints without it. -/
def integerOr (name : String) (value : Int) : FieldSpec :=
  (optional name .integer).withDefault (.int value)

/-- A field that may be absent, with a text for checkpoints without it. -/
def stringOr (name value : String) : FieldSpec :=
  (optional name .string).withDefault (.string value)

/-- A field that may be absent, with a flag for checkpoints without it. -/
def boolOr (name : String) (value : Bool) : FieldSpec :=
  (optional name .bool).withDefault (.bool value)

/-- A field that may be absent, with the float nearest to a quotient for checkpoints without
it. -/
def floatOr (name : String) (num den : Nat) : FieldSpec :=
  (optional name .float).withDefault (.float (.ofRatio false num den))

/-! ## Shared fields -/

/-- The fields of every decoder-only transformer. -/
def decoderFields : List FieldSpec := [
  mandatory "hidden_size" .integer,
  mandatory "num_attention_heads" .integer,
  mandatory "num_hidden_layers" .integer,
  mandatory "intermediate_size" .integer,
  mandatory "vocab_size" .integer,
  optional "num_key_value_heads" .integer,
  optional "head_dim" .integer,
  integerOr "max_position_embeddings" 4096,
  stringOr "hidden_act" "silu",
  floatOr "rms_norm_eps" 1 1000000,
  floatOr "rope_theta" 10000 1,
  optional "rope_scaling" .object,
  boolOr "tie_word_embeddings" false,
  boolOr "attention_bias" false,
  optional "bos_token_id" .any,
  optional "eos_token_id" .any,
  optional "torch_dtype" .string]

/-- The fields of a mixture of experts. -/
def expertFields : List FieldSpec := [
  mandatory "num_experts" .integer,
  mandatory "num_experts_per_tok" .integer,
  optional "moe_intermediate_size" .integer,
  boolOr "norm_topk_prob" true,
  integerOr "decoder_sparse_step" 1,
  optional "mlp_only_layers" .integerList]

/-- The tokens that mark images and videos in the text. -/
def visionTokenFields : List FieldSpec := [
  optional "image_token_id" .integer,
  optional "video_token_id" .integer,
  optional "vision_start_token_id" .integer,
  optional "vision_end_token_id" .integer]

/-! ## Language models -/

/-- Llama decoders. -/
def llama : ConfigClass :=
  (empty "LlamaConfig").withModelType "llama" |>.withFields decoderFields

/-- Mistral decoders. -/
def mistral : ConfigClass :=
  (empty "MistralConfig").withModelType "mistral" |>.withFields decoderFields
    |>.withField (optional "sliding_window" .integer)

/-- Qwen3 decoders. -/
def qwen3 : ConfigClass :=
  (empty "Qwen3Config").withModelType "qwen3" |>.withFields decoderFields
    |>.withFields [
      optional "sliding_window" .integer,
      boolOr "use_sliding_window" false,
      optional "max_window_layers" .integer]

/-- The drafting head of one layer on top of a Llama target. -/
def eagleLlama : ConfigClass := (empty "EagleConfig").withFields decoderFields

/-- The drafting head that reads several layers of its target. -/
def eagle3 : ConfigClass :=
  (empty "Eagle3Config").withFields decoderFields
    |>.withFields [
      optional "draft_vocab_size" .integer,
      optional "target_hidden_size" .integer]

/-- Decoders that mix linear and full attention, with experts. -/
def qwen3Next : ConfigClass :=
  (empty "Qwen3NextConfig").withModelType "qwen3_next" |>.withModelType "omega17_vl_exp_text"
    |>.withFields decoderFields |>.withFields expertFields
    |>.withFields [
      optional "shared_expert_intermediate_size" .integer,
      integerOr "full_attention_interval" 4,
      optional "linear_num_key_heads" .integer,
      optional "linear_num_value_heads" .integer,
      optional "linear_key_head_dim" .integer,
      optional "linear_value_head_dim" .integer,
      optional "linear_conv_kernel_dim" .integer]

/-! ## Vision-language models -/

/-- The vision tower of Qwen2-VL. -/
def qwen2VLVision : ConfigClass :=
  (empty "Qwen2VLVisionConfig").withFields [
    mandatory "depth" .integer,
    mandatory "embed_dim" .integer,
    mandatory "num_heads" .integer,
    optional "hidden_size" .integer,
    floatOr "mlp_ratio" 4 1,
    integerOr "in_chans" 3,
    integerOr "patch_size" 14,
    integerOr "spatial_merge_size" 2,
    integerOr "temporal_patch_size" 2]

/-- Qwen2-VL, whose checkpoints keep the fields of the language model at the top. -/
def qwen2VL : ConfigClass :=
  (empty "Qwen2VLConfig").withModelType "qwen2_vl" |>.withFields visionTokenFields
    |>.withSlot (.flatten "text_config" ((empty "Qwen2VLTextConfig").withFields decoderFields))
    |>.withSlot (.subtree "vision_config" qwen2VLVision)

/-- A vision tower of the Qwen3-VL family. -/
def qwen3VLVision (name : String) : ConfigClass :=
  (empty name).withFields [
    mandatory "depth" .integer,
    mandatory "hidden_size" .integer,
    mandatory "num_heads" .integer,
    mandatory "patch_size" .integer,
    optional "intermediate_size" .integer,
    optional "out_hidden_size" .integer,
    stringOr "hidden_act" "gelu_pytorch_tanh",
    integerOr "in_channels" 3,
    integerOr "spatial_merge_size" 2,
    integerOr "temporal_patch_size" 2,
    optional "num_position_embeddings" .integer,
    optional "deepstack_visual_indexes" .integerList]

/-- A class of the Qwen3-VL family, with the text and the vision tower in subtrees. -/
def qwen3VLFamily (name : String) (text : ConfigClass) (vision : String) : ConfigClass :=
  (empty name).withFields visionTokenFields
    |>.withField (boolOr "tie_word_embeddings" false)
    |>.withSlot (.subtree "text_config" text)
    |>.withSlot (.subtree "vision_config" (qwen3VLVision vision))

/-- Qwen3-VL with a dense decoder. -/
def qwen3VL : ConfigClass :=
  qwen3VLFamily "Qwen3VLConfig" ((empty "Qwen3VLTextConfig").withFields decoderFields)
    "Qwen3VLVisionConfig"
    |>.withModelType "qwen3_vl" |>.withModelType "omega17_vl"

/-- Qwen3-VL with experts. Omega17-VL-Exp checkpoints have the same layout. -/
def qwen3VLMoe : ConfigClass :=
  qwen3VLFamily "Qwen3VLMoeConfig"
    ((empty "Qwen3VLMoeTextConfig").withFields decoderFields |>.withFields expertFields)
    "Qwen3VLMoeVisionConfig"
    |>.withModelType "qwen3_vl_moe" |>.withModelType "omega17_vl_exp"

/-! ## Encoders -/

/-- Bert encoders. -/
def bert : ConfigClass :=
  (empty "BertConfig").withModelType "bert" |>.withFields [
    mandatory "hidden_size" .integer,
    mandatory "num_attention_heads" .integer,
    mandatory "num_hidden_layers" .integer,
    mandatory "intermediate_size" .integer,
    mandatory "vocab_size" .integer,
    stringOr "hidden_act" "gelu",
    floatOr "layer_norm_eps" 1 1000000000000,
    integerOr "max_position_embeddings" 512,
    integerOr "type_vocab_size" 2]

/-- Whisper encoder-decoders. -/
def whisper : ConfigClass :=
  (empty "WhisperConfig").withModelType "whisper" |>.withFields [
    mandatory "d_model" .integer,
    mandatory "encoder_layers" .integer,
    mandatory "decoder_layers" .integer,
    mandatory "encoder_attention_heads" .integer,
    mandatory "decoder_attention_heads" .integer,
    mandatory "vocab_size" .integer,
    mandatory "num_mel_bins" .integer,
    integerOr "max_source_positions" 1500,
    integerOr "max_target_positions" 448]

/-- The classes under the architectures that they are mapped to. -/
def builtin : List (String × ConfigClass) := [
  ("LlamaForCausalLM", llama),
  ("MistralForCausalLM", mistral),
  ("Qwen3ForCausalLM", qwen3),
  ("EagleLlamaForCausalLM", eagleLlama),
  ("Eagle3LlamaForCausalLM", eagle3),
  ("Qwen2VLForConditionalGeneration", qwen2VL),
  ("Qwen3NextForCausalLM", qwen3Next),
  ("Qwen3VLForConditionalGeneration", qwen3VL),
  ("Qwen3VLMoeForConditionalGeneration", qwen3VLMoe),
  ("BertModel", bert),
  ("WhisperForConditionalGeneration", whisper)]

end ModelRegistry.ConfigClass

namespace ModelRegistry.ClassMapping

/-- The mapping of these classes. -/
def builtin : ClassMapping := ofList ConfigClass.builtin

end ModelRegistry.ClassMapping
