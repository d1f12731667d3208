import ModelRegistry.Architecture.Declaration

/-!
# ModelRegistry.Architecture.Builtin

The architectures that come with the library. Each has its implementation under
its own name in a module of `models`.
-/

namespace ModelRegistry.Declaration

/-- The declaration of an architecture in a module of `models`. -/
def inModels (id module : String) (modalities : List Modality) : Declaration :=
  ⟨id, modalities, ⟨"models::" ++ module, id⟩, none, none⟩

/-- The declaration with a model type. -/
def answering (modelType : String) (d : Declaration) : Declaration :=
  { d with modelType := some modelType }

/-- The declaration with a part in speculative decoding. -/
def speculating (role : Role) (adapter : Adapter) (d : Declaration) : Declaration :=
  { d with speculative := some ⟨role, adapter⟩ }

/-- A drafting head on top of three layers of its target: their states are averaged and
normalised into one layer's. -/
def threeLayers : Adapter where
  nativeWidth := 12288
  nativeNorm := .none
  steps := [.chunkMean 3, .rmsNorm (.ofRatio false 1 1000000)]
  shared := ⟨4096, .rmsNorm⟩

/-- The declarations of these architectures, in the order of registration. No class is mapped
to the architecture that has a model type of its own: its checkpoints are resolved through the
alias. -/
def builtin : List Declaration := [
  (inModels "LlamaForCausalLM" "llama" [.text]).speculating .both (.identity 4096 .rmsNorm),
  inModels "MistralForCausalLM" "mistral" [.text],
  (inModels "Qwen3ForCausalLM" "qwen3" [.text]).speculating .both (.identity 1024 .rmsNorm),
  inModels "Qwen3NextForCausalLM" "qwen3_next" [.text],
  (inModels "EagleLlamaForCausalLM" "eagle_llama" [.text]).speculating .draftCapable
    (.identity 4096 .rmsNorm),
  (inModels "Eagle3LlamaForCausalLM" "eagle3" [.text]).speculating .draftCapable threeLayers,
  inModels "Qwen2VLForConditionalGeneration" "qwen2_vl" [.text, .visionLanguage, .video],
  inModels "Qwen3VLForConditionalGeneration" "qwen3_vl" [.text, .visionLanguage, .video],
  (inModels "Qwen3VLMoeForConditionalGeneration" "qwen3_vl_moe"
    [.text, .visionLanguage, .video]).speculating .verifyCapable (.identity 2048 .rmsNorm),
  ((inModels "Omega17VLExpForConditionalGeneration" "omega17_vl_exp"
    [.text, .visionLanguage, .video]).answering "omega17_vl_exp").speculating .verifyCapable
      (.identity 2048 .rmsNorm),
  inModels "BertModel" "bert" [.embedding],
  inModels "WhisperForConditionalGeneration" "whisper" [.audio]]

end ModelRegistry.Declaration
