import ModelRegistry.Service.Preparation

/-!
# ModelRegistry.Service.Speculative

Preparing a target together with its draft. Both are loaded at once; then their
architectures must form a pair, and the hidden size of each checkpoint, where it
has one, must be the width that the architecture declared for a layer.
-/

namespace ModelRegistry

/-- Why a target and a draft could not be prepared. -/
inductive SpeculativeError where
  | load (side : Side) (error : LoadError)
  | mismatch (error : PairingError)
  | hiddenSize (side : Side) (architecture : String) (declared checkpoint : Nat)
  deriving DecidableEq, Repr

/-- The text of the error. -/
def SpeculativeError.message : SpeculativeError → String
  | .load side e => "failed to prepare " ++ side.name ++ " model: " ++ e.message
  | .mismatch e => e.message
  | .hiddenSize side architecture declared checkpoint =>
    side.name ++ " " ++ architecture ++ " declares " ++ toString declared
      ++ "-wide hidden states, but its checkpoint has hidden_size " ++ toString checkpoint

/-- A target and a draft that are ready, and the pair of their architectures. -/
structure SpeculativePlan where
  target : PreparedModel
  draft : PreparedModel
  pairing : Shared Pairing

/-- The integer that a configuration has as its hidden size: its own, else that of the text
model nested in it. -/
def Descriptor.hiddenSize? (d : Descriptor) : Option Int :=
  (d.getInt? "hidden_size").or ((d.nestedAt? "text_config").bind (·.getInt? "hidden_size"))

namespace Service

/-- The facts that a registered architecture declares. -/
def compatibility (id : String) : StateM Service (Except RegistryError (Shared SpeculativeFacts)) :=
  modifyGet fun s =>
    let (facts, pairings) := s.pairings.compatibility s.registry id
    (facts, { s with pairings })

/-- The pair of two registered architectures. -/
def pair (target draft : String) : StateM Service (Except PairingError (Shared Pairing)) :=
  modifyGet fun s =>
    let (pairing, pairings) := s.pairings.pair s.registry target draft
    (pairing, { s with pairings })

/-- Checks the hidden size of a model against the width that its architecture declared. -/
def checkHiddenSize (side : Side) (m : PreparedModel) (facts : SpeculativeFacts) :
    Except SpeculativeError Unit :=
  match facts.adapter, m.resolved.config.hiddenSize?.bind Descriptor.sizeOf? with
  | some adapter, some checkpoint =>
    let declared := adapter.layerWidth.toNat
    if declared = checkpoint then .ok ()
    else .error (.hiddenSize side m.architecture declared checkpoint)
  | _, _ => .ok ()

/-- Pairs two models that are loaded. -/
def join (target draft : PreparedModel) :
    StateM Service (Except SpeculativeError SpeculativePlan) := do
  match ← pair target.architecture draft.architecture with
  | .error e => return .error (.mismatch e)
  | .ok pairing =>
    match checkHiddenSize .target target pairing.value.target.value,
        checkHiddenSize .draft draft pairing.value.draft.value with
    | .error e, _ => return .error e
    | .ok (), .error e => return .error e
    | .ok (), .ok () => return .ok ⟨target, draft, pairing⟩

/-- Brings two requests to their ends, the target first. If it fails, the draft is dropped. -/
def settleBoth (files : Files) (target draft : Pending) :
    StateM Service (Except SpeculativeError SpeculativePlan) := do
  match ← settle files target with
  | .error e =>
    abandon draft
    return .error (.load .target e)
  | .ok target =>
    match ← settle files draft with
    | .error e => return .error (.load .draft e)
    | .ok draft => join target.value draft.value

/-- Prepares a target and a draft. The draft is requested unless the target has failed by
then, and the one of the two that fails first decides. -/
def prepareSpeculative (files : Files) (target draft : String) :
    StateM Service (Except SpeculativeError SpeculativePlan) := do
  match ← begin files target with
  | .done (.error e) => return .error (.load .target e)
  | target =>
    match ← begin files draft with
    | .done (.error e) =>
      abandon target
      return .error (.load .draft e)
    | draft =>
      wait
      settleBoth files target draft

end Service

end ModelRegistry
