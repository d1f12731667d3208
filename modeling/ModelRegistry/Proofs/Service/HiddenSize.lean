import ModelRegistry.Proofs.Service.Pairing

/-!
# ModelRegistry.Proofs.Service.HiddenSize

The hidden sizes of a speculative plan. A configuration may have any integer under
`hidden_size`; what is compared with the declared width is the size that is made
of it. An integer that is a size in the range of signed words must be the declared
width for a plan to come about. A negative integer makes no size, and passes.
-/

namespace ModelRegistry

open Number

/-! ## Hidden sizes -/

/-- The integer that the value is, of whatever sign and size. -/
def FieldValue.wholeNumber? : FieldValue → Option Int
  | .integer n => some n
  | .any (.number (.integer n)) => some n
  | _ => none

/-- The integer under `hidden_size`, else the one of the text model. -/
def Descriptor.wholeHiddenSize? (d : Descriptor) : Option Int :=
  ((d.get? "hidden_size").bind FieldValue.wholeNumber?).or
    ((d.nestedAt? "text_config").bind fun text =>
      (text.get? "hidden_size").bind FieldValue.wholeNumber?)

namespace PreparedModel

/-- The integer hidden size of the model, if it has one. -/
def hiddenSize? (m : PreparedModel) : Option Int := m.resolved.config.wholeHiddenSize?

/-- The hidden size that is compared with the declared width. -/
def comparedSize? (m : PreparedModel) : Option Nat :=
  m.resolved.config.hiddenSize?.bind Descriptor.sizeOf?

/-- An integer hidden size is a size in the range of signed words. -/
def Sized (m : PreparedModel) : Prop :=
  ∀ n, m.hiddenSize? = some n → 0 ≤ n ∧ n < signedBound

/-- An integer hidden size is the width of a layer. -/
def Agrees (m : PreparedModel) (a : Adapter) : Prop :=
  ∀ n, m.hiddenSize? = some n → n = a.layerWidth.toNat

end PreparedModel

/-- The model on a side. -/
def SpeculativePlan.model (plan : SpeculativePlan) : Side → PreparedModel
  | .draft => plan.draft
  | .target => plan.target

theorem FieldValue.int?_eq_wholeNumber? {v : FieldValue}
    (h : ∀ n, v.wholeNumber? = some n → IsSigned n) : v.int? = v.wholeNumber? := by
  cases v with
  | any v =>
      cases v with
      | number x =>
          cases x with
          | integer n =>
              have hn : IsSigned n := h n rfl
              rw [int?, Json.int64?, if_pos hn]
              rfl
          | float x => rfl
      | _ => rfl
  | _ => rfl

namespace Descriptor

variable {d : Descriptor}

theorem getInt?_eq_wholeNumber? {name : String}
    (h : ∀ n, (d.get? name).bind FieldValue.wholeNumber? = some n → IsSigned n) :
    d.getInt? name = (d.get? name).bind FieldValue.wholeNumber? := by
  rw [getInt?]
  cases hget : d.get? name with
  | none => rfl
  | some v =>
      rw [hget] at h
      exact FieldValue.int?_eq_wholeNumber? h

/-- An integer in the range of signed words is read as it is, and so is the absence of one. -/
theorem hiddenSize?_eq_wholeHiddenSize? (h : ∀ n, d.wholeHiddenSize? = some n → IsSigned n) :
    d.hiddenSize? = d.wholeHiddenSize? := by
  rw [wholeHiddenSize?] at h ⊢
  rw [hiddenSize?]
  cases htop : (d.get? "hidden_size").bind FieldValue.wholeNumber? with
  | some n =>
      -- What the text model says is not looked at.
      have hint : d.getInt? "hidden_size" = some n := by
        rw [getInt?_eq_wholeNumber?, htop]
        intro m hm
        exact h m (by rw [hm, Option.some_or])
      rw [hint, Option.some_or, Option.some_or]
  | none =>
      have hint : d.getInt? "hidden_size" = none := by
        rw [getInt?_eq_wholeNumber?, htop]
        intro m hm
        rw [htop] at hm
        cases hm
      rw [htop, Option.none_or] at h
      rw [hint, Option.none_or, Option.none_or]
      cases htext : d.nestedAt? "text_config" with
      | none => rfl
      | some text =>
          rw [htext] at h
          exact getInt?_eq_wholeNumber? h

end Descriptor

theorem PreparedModel.comparedSize?_of_sized {m : PreparedModel} (h : m.Sized) :
    m.comparedSize? = m.hiddenSize?.map Int.toNat := by
  have hsigned : ∀ n, m.resolved.config.wholeHiddenSize? = some n → IsSigned n := by
    intro n hn
    obtain ⟨hpos, hlt⟩ := h n hn
    exact ⟨by omega, hlt⟩
  rw [comparedSize?, Descriptor.hiddenSize?_eq_wholeHiddenSize? hsigned]
  cases hsize : m.hiddenSize? with
  | none => rw [hiddenSize?] at hsize; rw [hsize]; rfl
  | some n =>
      have hpos : 0 ≤ n := (h n hsize).1
      rw [hiddenSize?] at hsize
      rw [hsize, Option.bind_some, Descriptor.sizeOf?, if_pos hpos, Option.map_some]

/-! ## The check of a side -/

namespace Service

variable {side : Side} {m : PreparedModel} {facts : SpeculativeFacts} {a : Adapter}

theorem checkHiddenSize_eq (ha : facts.adapter = some a) :
    checkHiddenSize side m facts =
      match m.comparedSize? with
      | none => .ok ()
      | some size =>
        if a.layerWidth.toNat = size then .ok ()
        else .error (.hiddenSize side m.architecture a.layerWidth.toNat size) := by
  rw [checkHiddenSize, ha, PreparedModel.comparedSize?]
  cases m.resolved.config.hiddenSize?.bind Descriptor.sizeOf? <;> rfl

theorem checkHiddenSize_of_agrees (ha : facts.adapter = some a) (hsized : m.Sized)
    (h : m.Agrees a) : checkHiddenSize side m facts = .ok () := by
  rw [checkHiddenSize_eq ha, PreparedModel.comparedSize?_of_sized hsized]
  cases hsize : m.hiddenSize? with
  | none => rfl
  | some n =>
      have hn : a.layerWidth.toNat = n.toNat := by
        rw [h n hsize]
        rfl
      simp only [Option.map_some, hn, if_true]

theorem checkHiddenSize_of_ne (ha : facts.adapter = some a) {n : Nat}
    (hsize : m.hiddenSize? = some (n : Int)) (hn : n < signedBound)
    (hne : n ≠ a.layerWidth.toNat) :
    checkHiddenSize side m facts =
      .error (.hiddenSize side m.architecture a.layerWidth.toNat n) := by
  have hsized : m.Sized := by
    intro k hk
    obtain rfl := Option.some.inj (hsize.symm.trans hk)
    exact ⟨by omega, by exact_mod_cast hn⟩
  rw [checkHiddenSize_eq ha, PreparedModel.comparedSize?_of_sized hsized, hsize]
  simp only [Option.map_some, Int.toNat_natCast, hne.symm, if_false]

/-- A model with an integer hidden size that is a size passes only if that is the width. -/
theorem agrees_of_checkHiddenSize (ha : facts.adapter = some a) (hsized : m.Sized)
    (h : checkHiddenSize side m facts = .ok ()) : m.Agrees a := by
  intro n hsize
  obtain ⟨hpos, hlt⟩ := hsized n hsize
  by_cases hne : n = a.layerWidth.toNat
  · exact hne
  · have hsize' : m.hiddenSize? = some (n.toNat : Int) := by rw [hsize, Int.toNat_of_nonneg hpos]
    rw [checkHiddenSize_of_ne ha hsize' (by omega) (by omega)] at h
    cases h

/-! ## Preparing a plan -/

variable {files : Files} {s : Service} {r : Registry} {target draft : PreparedModel}
  {adapter : PairAdapter} {locator locator' : String}

/-- Brings two requests to their ends, the target first, without pairing what they come to. -/
def settleModels (files : Files) (target draft : Pending) :
    StateM Service (Except SpeculativeError (PreparedModel × PreparedModel)) := do
  match ← settle files target with
  | .error e =>
    abandon draft
    return .error (.load .target e)
  | .ok target =>
    match ← settle files draft with
    | .error e => return .error (.load .draft e)
    | .ok draft => return .ok (target.value, draft.value)

/-- Loads a draft beside a target that was requested before. -/
def loadBeside (files : Files) (target : Pending) (draft : String) :
    StateM Service (Except SpeculativeError (PreparedModel × PreparedModel)) := do
  match ← begin files draft with
  | .done (.error e) =>
    abandon target
    return .error (.load .draft e)
  | draft =>
    wait
    settleModels files target draft

/-- Loads a target and a draft at once. -/
def loadBoth (files : Files) (target draft : String) :
    StateM Service (Except SpeculativeError (PreparedModel × PreparedModel)) := do
  match ← begin files target with
  | .done (.error e) => return .error (.load .target e)
  | target => loadBeside files target draft

/-- Pairs the models, if both were loaded. -/
def joinBoth : Except SpeculativeError (PreparedModel × PreparedModel) →
    StateM Service (Except SpeculativeError SpeculativePlan)
  | .error e => return .error e
  | .ok both => join both.1 both.2

theorem settleBoth_eq (files : Files) (target draft : Pending) :
    settleBoth files target draft = settleModels files target draft >>= joinBoth := by
  rw [settleBoth, settleModels, bind_assoc]
  congr 1
  funext target
  cases target with
  | error e => rfl
  | ok target =>
      simp only [bind_assoc]
      congr 1
      funext draft
      cases draft with
      | error e => rfl
      | ok draft => rfl

/-- A plan is prepared by loading the two models and pairing them. -/
theorem prepareSpeculative_eq (files : Files) (target draft : String) :
    prepareSpeculative files target draft = loadBoth files target draft >>= joinBoth := by
  -- Once the target is requested, the draft is loaded beside it.
  have hbeside : ∀ target : Pending, (do
      match ← begin files draft with
      | .done (.error e) =>
        abandon target
        return .error (.load .draft e)
      | draft =>
        wait
        settleBoth files target draft) = loadBeside files target draft >>= joinBoth := by
    intro target
    rw [loadBeside, bind_assoc]
    congr 1
    funext draft
    cases draft with
    | waiting i flight locator => simp only [settleBoth_eq, bind_assoc]
    | done outcome =>
        cases outcome with
        | error e => rfl
        | ok m => simp only [settleBoth_eq, bind_assoc]
  rw [prepareSpeculative, loadBoth, bind_assoc]
  congr 1
  funext target
  cases target with
  | waiting i flight locator => exact hbeside _
  | done outcome =>
      cases outcome with
      | error e => rfl
      | ok m => exact hbeside _

theorem Paired.settleModels (h : s.Paired r) (files : Files) (target draft : Pending) :
    ((settleModels files target draft).run s).2.Paired r := by
  have htarget := h.settle files target
  rw [Service.settleModels, run_bind]
  split
  · exact htarget.abandon draft
  · have hdraft := htarget.settle files draft
    rw [run_bind]
    split
    · exact hdraft
    · exact hdraft

theorem Paired.loadBoth (h : s.Paired r) (files : Files) (target draft : String) :
    ((loadBoth files target draft).run s).2.Paired r := by
  have htarget := h.begin files target
  rw [Service.loadBoth, run_bind]
  split
  · exact htarget
  · have hdraft := htarget.begin files draft
    rw [loadBeside, run_bind]
    split
    · exact hdraft.abandon _
    · have hwaited : (Service.wait.run ((Service.begin files draft).run
          ((Service.begin files target).run s).2).2).2.Paired r := { hdraft with }
      exact hwaited.settleModels files _ _

/-- What pairing two models comes to, given what is answered about their architectures. -/
theorem join_run (s : Service) (target draft : PreparedModel) :
    ((join target draft).run s).1 =
      match ((pair target.architecture draft.architecture).run s).1 with
      | .error e => .error (.mismatch e)
      | .ok pairing =>
        match checkHiddenSize .target target pairing.value.target.value,
            checkHiddenSize .draft draft pairing.value.draft.value with
        | .error e, _ => .error e
        | .ok (), .error e => .error e
        | .ok (), .ok () => .ok ⟨target, draft, pairing⟩ := by
  rw [join, run_bind]
  cases ((pair target.architecture draft.architecture).run s).1 with
  | error e => rfl
  | ok pairing =>
      dsimp only
      cases checkHiddenSize .target target pairing.value.target.value with
      | error e => rfl
      | ok u =>
          cases checkHiddenSize .draft draft pairing.value.draft.value with
          | error e => rfl
          | ok u => rfl

/-- Two architectures that the registry declares a pair are answered with that pair. -/
theorem Paired.exists_pair (h : s.Paired r) {target draft : String}
    (hverdict : r.verdict target draft = .ok adapter) :
    ∃ pairing, ((Service.pair target draft).run s).1 = .ok pairing ∧
      pairing.value.adapter = adapter ∧ pairing.value.target.value.adapter = some adapter.target ∧
      pairing.value.draft.value.adapter = some adapter.draft := by
  have hanswers := h.answers target draft
  cases hpair : ((Service.pair target draft).run s).1 with
  | error e =>
      rw [hpair] at hanswers
      cases hverdict.symm.trans hanswers
  | ok pairing =>
      rw [hpair] at hanswers
      obtain rfl := Except.ok.inj (hverdict.symm.trans hanswers.composed)
      exact ⟨pairing, rfl, rfl, hanswers.adapters⟩

/-- The models of a plan agree with the widths that their architectures declared. -/
theorem Paired.join_agrees (h : s.Paired r) {plan : SpeculativePlan}
    (hplan : ((join target draft).run s).1 = .ok plan) (side : Side)
    (hsized : (plan.model side).Sized) :
    (plan.model side).Agrees (plan.pairing.value.adapter.side side) := by
  have hanswers := h.answers target.architecture draft.architecture
  rw [join_run] at hplan
  cases hpair : ((Service.pair target.architecture draft.architecture).run s).1 with
  | error e => simp [hpair] at hplan
  | ok pairing =>
      rw [hpair] at hanswers
      obtain ⟨htarget, hdraft⟩ := hanswers.adapters
      simp only [hpair] at hplan
      split at hplan
      · cases hplan
      · cases hplan
      · next hchecked hchecked' =>
          obtain rfl := Except.ok.inj hplan
          cases side with
          | target => exact agrees_of_checkHiddenSize htarget hsized hchecked
          | draft => exact agrees_of_checkHiddenSize hdraft hsized hchecked'

section Declared

variable (h : s.Paired r)
  (hverdict : r.verdict target.architecture draft.architecture = .ok adapter)

include h hverdict

theorem Paired.join_of_target_differs {n : Nat} (hsize : target.hiddenSize? = some (n : Int))
    (hn : n < signedBound) (hne : n ≠ adapter.target.layerWidth.toNat) :
    ((join target draft).run s).1 =
      .error (.hiddenSize .target target.architecture adapter.target.layerWidth.toNat n) := by
  obtain ⟨pairing, hpair, rfl, htarget, -⟩ := h.exists_pair hverdict
  rw [join_run, hpair]
  simp only [checkHiddenSize_of_ne htarget hsize hn hne]

theorem Paired.join_of_draft_differs (hsized : target.Sized)
    (hagrees : target.Agrees adapter.target) {n : Nat}
    (hsize : draft.hiddenSize? = some (n : Int)) (hn : n < signedBound)
    (hne : n ≠ adapter.draft.layerWidth.toNat) :
    ((join target draft).run s).1 =
      .error (.hiddenSize .draft draft.architecture adapter.draft.layerWidth.toNat n) := by
  obtain ⟨pairing, hpair, rfl, htarget, hdraft⟩ := h.exists_pair hverdict
  rw [join_run, hpair]
  simp only [checkHiddenSize_of_agrees htarget hsized hagrees,
    checkHiddenSize_of_ne hdraft hsize hn hne]

theorem Paired.join_of_agree (hsized : target.Sized) (hagrees : target.Agrees adapter.target)
    (hsized' : draft.Sized) (hagrees' : draft.Agrees adapter.draft) :
    ∃ pairing, ((join target draft).run s).1 = .ok ⟨target, draft, pairing⟩ ∧
      pairing.value.adapter = adapter := by
  obtain ⟨pairing, hpair, rfl, htarget, hdraft⟩ := h.exists_pair hverdict
  refine ⟨pairing, ?_, rfl⟩
  rw [join_run, hpair]
  simp only [checkHiddenSize_of_agrees htarget hsized hagrees,
    checkHiddenSize_of_agrees hdraft hsized' hagrees']

end Declared

end Service

/-! ## Started services -/

namespace Setup

variable {s : Setup} {files : Files} {service later : Service} {trees : Files → Prop}

/-- **A plan agrees with its checkpoints**, as far as their hidden sizes are sizes in the range of
signed words. In a service that was started, whatever it has done since, an integer hidden size of
either model of a plan is then the layer width of the adapter of its side. When two models are
loaded and the registry declares their architectures a pair, a hidden size that differs is the
error: that of the target, or else that of the draft; and where neither differs there is a plan. -/
theorem plans_agree_with_checkpoints (hstart : s.start files = .ok service)
    (hreaches : service.Reaches trees later) (now : Files) (locator locator' : String) :
    (∀ plan, ((Service.prepareSpeculative now locator locator').run later).1 = .ok plan →
      ∀ side, (plan.model side).Sized →
        (plan.model side).Agrees (plan.pairing.value.adapter.side side)) ∧
    ∀ target draft adapter,
      ((Service.loadBoth now locator locator').run later).1 = .ok (target, draft) →
      service.registry.verdict target.architecture draft.architecture = .ok adapter →
      (∀ n : Nat, target.hiddenSize? = some (n : Int) → n < signedBound →
        n ≠ adapter.target.layerWidth.toNat →
        ((Service.prepareSpeculative now locator locator').run later).1 =
          .error (.hiddenSize .target target.architecture adapter.target.layerWidth.toNat n)) ∧
      (target.Sized → target.Agrees adapter.target →
        (∀ n : Nat, draft.hiddenSize? = some (n : Int) → n < signedBound →
          n ≠ adapter.draft.layerWidth.toNat →
          ((Service.prepareSpeculative now locator locator').run later).1 =
            .error (.hiddenSize .draft draft.architecture adapter.draft.layerWidth.toNat n)) ∧
        (draft.Sized → draft.Agrees adapter.draft →
          ∃ pairing, ((Service.prepareSpeculative now locator locator').run later).1 =
            .ok ⟨target, draft, pairing⟩ ∧ pairing.value.adapter = adapter)) := by
  have hpaired : later.Paired service.registry := (paired_of_start hstart).reaches hreaches
  have hloaded := hpaired.loadBoth now locator locator'
  rw [Service.prepareSpeculative_eq, Service.run_bind]
  constructor
  · intro plan hplan side hsized
    cases hboth : ((Service.loadBoth now locator locator').run later).1 with
    | error e => rw [hboth] at hplan; cases hplan
    | ok both =>
        rw [hboth] at hplan
        exact hloaded.join_agrees hplan side hsized
  · intro target draft adapter hboth hverdict
    rw [hboth]
    refine ⟨?_, ?_⟩
    · intro n hsize hn hne
      exact hloaded.join_of_target_differs hverdict hsize hn hne
    · intro hsized hagrees
      refine ⟨?_, ?_⟩
      · intro n hsize hn hne
        exact hloaded.join_of_draft_differs hverdict hsized hagrees hsize hn hne
      · intro hsized' hagrees'
        exact hloaded.join_of_agree hverdict hsized hagrees hsized' hagrees'

/-- The verifier and the draft, with checkpoints of these hidden sizes. -/
def sizedAt (wide draft : Int) : Setup :=
  { sized with
    fetcher := .memory [
      ("wide", (Checkpoint.ofArchitectures ["WideForCausalLM"]).withField "hidden_size"
        (.int wide)),
      ("draft", (Checkpoint.ofArchitectures ["DraftForCausalLM"]).withField "hidden_size"
        (.int draft))] true }

/-- A draft of size 24, with layers that are declared 16 wide, is refused. -/
theorem draft_of_another_size :
    ∃ service, (sizedAt 16 24).start .empty = .ok service ∧
      ((Service.prepareSpeculative .empty "wide" "draft").run service).1 =
        .error (.hiddenSize .draft "DraftForCausalLM" 16 24) := by
  obtain ⟨service, target, draft, adapter, hstart, hboth, hverdict, hwide, hsize, htarget, hdraft,
      hname⟩ : ∃ service target draft adapter, (sizedAt 16 24).start .empty = .ok service ∧
      ((Service.loadBoth .empty "wide" "draft").run service).1 = .ok (target, draft) ∧
      service.registry.verdict target.architecture draft.architecture = .ok adapter ∧
      target.hiddenSize? = some 16 ∧ draft.hiddenSize? = some 24 ∧
      adapter.target.layerWidth = 16 ∧ adapter.draft.layerWidth = 16 ∧
      draft.architecture = "DraftForCausalLM" :=
    ⟨_, _, _, _, rfl, rfl, rfl, rfl, rfl, rfl, rfl, rfl⟩
  have hsized : target.Sized := by
    intro n hn
    obtain rfl := Option.some.inj (hwide.symm.trans hn)
    decide
  have hagrees : target.Agrees adapter.target := by
    intro n hn
    obtain rfl := Option.some.inj (hwide.symm.trans hn)
    rw [htarget]
    rfl
  have hstays : service.Reaches (fun _ => True) service := .start
  obtain ⟨-, hdecided⟩ := plans_agree_with_checkpoints hstart hstays .empty "wide" "draft"
  have hdiffers := ((hdecided target draft adapter hboth hverdict).2 hsized hagrees).1 24 hsize
    (by decide) (by rw [hdraft]; decide)
  rw [hdraft, hname] at hdiffers
  exact ⟨service, hstart, hdiffers⟩

/-- A draft of size minus 16 passes for one whose layers are 16 wide. -/
theorem negative_size_passes :
    ∃ service plan, (sizedAt 16 (-16)).start .empty = .ok service ∧
      ((Service.prepareSpeculative .empty "wide" "draft").run service).1 = .ok plan ∧
      plan.draft.hiddenSize? = some (-16) ∧
      plan.pairing.value.adapter.draft.layerWidth.toNat = 16 :=
  ⟨_, _, rfl, rfl, rfl, rfl⟩

end Setup

end ModelRegistry
