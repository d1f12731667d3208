import ModelRegistry.Json.Writer
import ModelRegistry.Number.Decimal
import ModelRegistry.Service.Speculative

/-!
# ModelRegistry.Launch

The plan with which an engine starts a model: the settings it was asked for, held
against what the prepared model supports.
-/

namespace ModelRegistry

open Number

/-- The settings of a launch. -/
structure LaunchSettings where
  /-- The name under which the model is served; its locator if none is given. -/
  servedModelName : Option String
  dtype : String
  /-- The context length; the model's own if none is given. -/
  maxModelLen : Option UInt64
  gpuMemoryUtilization : Binary32
  tensorParallelSize : UInt64
  numSpeculativeTokens : UInt64
  deriving DecidableEq, Repr

/-- Why a launch is refused. -/
inductive LaunchError where
  | gpuMemoryUtilization (value : Binary32)
  | tensorParallelSize
  | speculativeTokens
  | contextTooLong (architecture : String) (requested limit : Nat)
  deriving DecidableEq, Repr

/-- The text of the error. -/
def LaunchError.message : LaunchError → String
  | .gpuMemoryUtilization value => "gpu_memory_utilization must be in (0, 1], got " ++ value.display
  | .tensorParallelSize => "tensor_parallel_size must be at least 1"
  | .speculativeTokens =>
    "num_speculative_tokens must be at least 1 when a draft model is set"
  | .contextTooLong architecture requested limit =>
    "max_model_len " ++ toString requested ++ " exceeds the " ++ toString limit ++ " positions "
      ++ architecture ++ " supports"

namespace LaunchSettings

/-- The settings of a launch for which nothing is asked. -/
def default : LaunchSettings where
  servedModelName := none
  dtype := "auto"
  maxModelLen := none
  gpuMemoryUtilization := .ofRatio false 9 10
  tensorParallelSize := 1
  numSpeculativeTokens := 3

/-- Checks the settings by themselves. The number of speculative tokens counts only with a
draft. -/
def validate (s : LaunchSettings) (speculative : Bool) : Except LaunchError Unit :=
  if !(s.gpuMemoryUtilization.isPositive && s.gpuMemoryUtilization.isAtMostOne) then
    .error (.gpuMemoryUtilization s.gpuMemoryUtilization)
  else if s.tensorParallelSize = 0 then .error .tensorParallelSize
  else if speculative && s.numSpeculativeTokens = 0 then .error .speculativeTokens
  else .ok ()

/-- The settings as JSON; null stands where nothing is asked. -/
def toJson (s : LaunchSettings) : Json :=
  .object [("served_model_name", (s.servedModelName.map Json.string).getD .null),
    ("dtype", .string s.dtype),
    ("max_model_len", (s.maxModelLen.map fun n => Json.int n.toNat).getD .null),
    ("gpu_memory_utilization", .float s.gpuMemoryUtilization.toBinary64),
    ("tensor_parallel_size", .int s.tensorParallelSize.toNat),
    ("num_speculative_tokens", .int s.numSpeculativeTokens.toNat)]

end LaunchSettings

/-- The context length when neither the settings nor the model give one. -/
def defaultMaxModelLen : Nat := 2048

/-- The number of positions that a configuration supports: the first integer under
`max_position_embeddings` on the walk through it and those nested in it. -/
def Descriptor.maxPositions? (d : Descriptor) : Option Nat :=
  (d.walk.findSome? (·.getInt? "max_position_embeddings")).bind sizeOf?

/-- What a plan says of a model. -/
structure ModelPlan where
  locator : String
  architecture : String
  implementation : LoaderReference
  kind : ImplementationKind
  modalities : List Modality
  subsystems : List Subsystem
  maxPositions : Option Nat
  deriving DecidableEq, Repr

/-- The plan of a prepared model. -/
def ModelPlan.ofPrepared (m : PreparedModel) : ModelPlan where
  locator := m.resolved.locator
  architecture := m.architecture
  implementation := m.implementation.reference
  kind := m.implementation.kind
  modalities := m.resolved.entry.modalities
  subsystems := m.subsystems
  maxPositions := m.resolved.config.maxPositions?

/-- What a plan says of speculative decoding. -/
structure SpeculativeLaunch where
  draft : ModelPlan
  numSpeculativeTokens : UInt64
  layout : Layout
  deriving DecidableEq, Repr

/-- Everything an engine needs to serve a model. -/
structure LaunchPlan where
  servedModelName : String
  dtype : String
  maxModelLen : Nat
  gpuMemoryUtilization : Binary32
  tensorParallelSize : UInt64
  target : ModelPlan
  speculative : Option SpeculativeLaunch
  deriving DecidableEq, Repr

namespace LaunchPlan

/-- The context length of a launch: what is asked, unless the model supports less; else what
the model supports. -/
def contextLength (requested : Option UInt64) (m : ModelPlan) : Except LaunchError Nat :=
  match requested, m.maxPositions with
  | some requested, some limit =>
    if limit < requested.toNat then
      .error (.contextTooLong m.architecture requested.toNat limit)
    else .ok requested.toNat
  | some requested, none => .ok requested.toNat
  | none, some limit => .ok limit
  | none, none => .ok defaultMaxModelLen

/-- Plans the launch of a target, with a draft or without. -/
def build (s : LaunchSettings) (target : PreparedModel)
    (speculative : Option (PreparedModel × Pairing)) : Except LaunchError LaunchPlan :=
  match s.validate speculative.isSome with
  | .error e => .error e
  | .ok () =>
    let targetPlan := ModelPlan.ofPrepared target
    match contextLength s.maxModelLen targetPlan with
    | .error e => .error e
    | .ok maxModelLen =>
      .ok {
        servedModelName := s.servedModelName.getD targetPlan.locator
        dtype := s.dtype
        maxModelLen
        gpuMemoryUtilization := s.gpuMemoryUtilization
        tensorParallelSize := s.tensorParallelSize
        target := targetPlan
        speculative := speculative.map fun (draft, pairing) =>
          ⟨.ofPrepared draft, s.numSpeculativeTokens, pairing.adapter.shared⟩ }

/-! ## Writing -/

/-- The plan of a model as JSON. -/
def modelJson (m : ModelPlan) : Json :=
  .object <|
    [("locator", .string m.locator), ("architecture", .string m.architecture),
      ("implementation", .string m.implementation.text), ("kind", .string m.kind.name),
      ("modalities", .strings (m.modalities.map (·.tag))),
      ("subsystems", .strings (m.subsystems.map (·.name)))]
    ++ (match m.maxPositions with
      | some n => [("max_position_embeddings", .int n)]
      | none => [])

/-- What the plan says of speculative decoding, as JSON. -/
def speculativeJson (s : SpeculativeLaunch) : Json :=
  .object [("draft", modelJson s.draft),
    ("num_speculative_tokens", .int s.numSpeculativeTokens.toNat),
    ("shared_layout", s.layout.toJson)]

/-- The plan as JSON, with the given number for the utilization. -/
def jsonWith (utilization : Binary64) (p : LaunchPlan) : Json :=
  .object <|
    [("served_model_name", .string p.servedModelName), ("dtype", .string p.dtype),
      ("max_model_len", .int p.maxModelLen), ("gpu_memory_utilization", .float utilization),
      ("tensor_parallel_size", .int p.tensorParallelSize.toNat), ("target", modelJson p.target)]
    ++ (match p.speculative with
      | some s => [("speculative", speculativeJson s)]
      | none => [])

/-- The plan as a JSON value; the utilization is its exact value. -/
def toJson (p : LaunchPlan) : Json := p.jsonWith p.gpuMemoryUtilization.toBinary64

/-- The plan as text; the utilization has the digits of its own format. -/
def text (p : LaunchPlan) : String :=
  (p.jsonWith p.gpuMemoryUtilization.toBinary64ByDigits).pretty

end LaunchPlan

end ModelRegistry
