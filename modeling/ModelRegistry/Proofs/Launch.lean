import ModelRegistry.Launch
import ModelRegistry.Proofs.Config.Words
import ModelRegistry.Proofs.Number.Comparison
import ModelRegistry.Proofs.Service.HiddenSize

/-!
# ModelRegistry.Proofs.Launch

The limits that a launch plan keeps. The settings are checked by themselves
(`LaunchSettings.Admissible`); the context length is held against the positions that
the target supports, which are looked for on the walk through its configuration.

A configuration may have any integer under `max_position_embeddings`
(`declaredPositions?`). One that is a size in the range of signed words is the limit.
One beyond that range is passed over, and the search goes on; a negative one ends the
search without a limit, so that any context is longer than what was declared.
-/

namespace ModelRegistry

open Number

/-! ## Settings -/

/-- The settings are sound by themselves, for a launch with a draft or without. -/
structure LaunchSettings.Admissible (s : LaunchSettings) (speculative : Bool) : Prop where
  utilization : ∃ q, s.gpuMemoryUtilization.toRat? = some q ∧ 0 < q ∧ q ≤ 1
  parallel : 1 ≤ s.tensorParallelSize.toNat
  tokens : speculative = true → 1 ≤ s.numSpeculativeTokens.toNat

/-- The settings ask for no context longer than this. -/
def LaunchSettings.AsksAtMost (s : LaunchSettings) (n : Int) : Prop :=
  ∀ requested, s.maxModelLen = some requested → (requested.toNat : Int) ≤ n

theorem one_le_toNat_iff (x : UInt64) : 1 ≤ x.toNat ↔ x ≠ 0 := by
  simp [Nat.one_le_iff_ne_zero, ← UInt64.toNat_inj]

theorem LaunchSettings.validate_eq_ok_iff (s : LaunchSettings) (speculative : Bool) :
    s.validate speculative = .ok () ↔ s.Admissible speculative := by
  constructor
  · intro h
    rw [validate] at h
    split at h
    · contradiction
    split at h
    · contradiction
    split at h
    · contradiction
    next hutilization hparallel htokens =>
      refine ⟨?_, (one_le_toNat_iff _).mpr hparallel, ?_⟩
      · rw [← Binary32.isPositive_and_isAtMostOne_iff]
        simpa using hutilization
      · intro hspeculative
        rw [one_le_toNat_iff]
        simpa [hspeculative] using htokens
  · intro h
    have hutilization := (Binary32.isPositive_and_isAtMostOne_iff _).mpr h.utilization
    have hparallel := (one_le_toNat_iff _).mp h.parallel
    have htokens : (speculative && s.numSpeculativeTokens = 0) = false := by
      cases speculative with
      | false => rfl
      | true => simpa [one_le_toNat_iff] using h.tokens rfl
    rw [validate, hutilization.1, hutilization.2, htokens]
    simp [hparallel]

/-! ## Positions -/

namespace Descriptor

variable {d : Descriptor}

/-- The first integer under `max_position_embeddings` on the walk, of whatever sign and size. -/
def declaredPositions? (d : Descriptor) : Option Int :=
  d.walk.findSome? fun part =>
    (part.get? "max_position_embeddings").bind FieldValue.wholeNumber?

/-- The search for an integer finds the first whole number, if that is a signed word. -/
theorem findSome?_getInt? {name : String} {n : Int} (hn : IsSigned n) {parts : List Descriptor}
    (h : (parts.findSome? fun part => (part.get? name).bind FieldValue.wholeNumber?) = some n) :
    parts.findSome? (·.getInt? name) = some n := by
  induction parts with
  | nil => contradiction
  | cons part rest ih =>
      have hword : ∀ k, (part.get? name).bind FieldValue.wholeNumber? = some k → IsSigned k := by
        intro k hk
        rw [List.findSome?_cons, hk] at h
        obtain rfl := Option.some.inj h
        exact hn
      rw [List.findSome?_cons] at h ⊢
      rw [getInt?_eq_wholeNumber? hword]
      cases hpart : (part.get? name).bind FieldValue.wholeNumber? with
      | some m =>
          rw [hpart] at h
          exact h
      | none =>
          rw [hpart] at h
          exact ih h

theorem maxPositions?_of_declared {n : Int} (h : d.declaredPositions? = some n)
    (hn : IsSigned n) : d.maxPositions? = sizeOf? n := by
  rw [maxPositions?, findSome?_getInt? hn h, Option.bind_some]

theorem lt_of_maxPositions? (hd : d.HoldsWords) {limit : Nat}
    (h : d.maxPositions? = some limit) : limit < signedBound := by
  obtain ⟨n, hfound, hsize⟩ := Option.bind_eq_some_iff.mp h
  obtain ⟨part, hpart, hint⟩ := List.exists_of_findSome?_eq_some hfound
  obtain ⟨v, hv, hvint⟩ := Option.bind_eq_some_iff.mp hint
  have hsigned : IsSigned n := FieldValue.isSigned_of_int? (hd part hpart _ v hv) hvint
  rw [sizeOf?, Option.ite_none_right_eq_some] at hsize
  obtain ⟨hnonneg, hlimit⟩ := hsize
  obtain rfl := Option.some.inj hlimit
  have hbound := hsigned.2
  omega

end Descriptor

/-- What a service prepares holds words. -/
theorem Service.holdsWords_of_prepare {service : Service} (hopen : service.loads.SlotsOpen)
    {files : Files} {locator : String} {m : Shared PreparedModel}
    (h : ((prepare files locator).run service).1 = .ok m) : m.value.resolved.config.HoldsWords := by
  rw [prepare_of_slotsOpen hopen] at h
  cases hload : service.resolver.resolveModel files service.fetcher locator with
  | error e => simp [hload, outcomeOf] at h
  | ok model =>
      simp only [hload, outcomeOf] at h
      split at h
      · obtain rfl := Except.ok.inj h
        exact Resolver.holdsWords_of_resolveModel hload
      · contradiction

/-! ## The context length -/

namespace LaunchPlan

variable {m : ModelPlan} {limit length : Nat} {requested : UInt64}

theorem contextLength_of_no_limit (h : m.maxPositions = none) (asked : Option UInt64) :
    contextLength asked m = .ok ((asked.map UInt64.toNat).getD defaultMaxModelLen) := by
  cases asked with
  | none => simp only [contextLength, h]; rfl
  | some requested => simp only [contextLength, h]; rfl

theorem contextLength_of_limit (h : m.maxPositions = some limit) :
    contextLength none m = .ok limit := by
  simp only [contextLength, h]

theorem contextLength_of_le (h : m.maxPositions = some limit) (hle : requested.toNat ≤ limit) :
    contextLength (some requested) m = .ok requested.toNat := by
  simp only [contextLength, h, if_neg (Nat.not_lt.mpr hle)]

theorem contextLength_of_gt (h : m.maxPositions = some limit) (hgt : limit < requested.toNat) :
    contextLength (some requested) m =
      .error (.contextTooLong m.architecture requested.toNat limit) := by
  simp only [contextLength, h, if_pos hgt]

theorem eq_of_contextLength (h : contextLength (some requested) m = .ok length) :
    length = requested.toNat := by
  cases hlimit : m.maxPositions with
  | none =>
      rw [contextLength_of_no_limit hlimit] at h
      exact (Except.ok.inj h).symm
  | some limit =>
      rcases Nat.lt_or_ge limit requested.toNat with hgt | hle
      · rw [contextLength_of_gt hlimit hgt] at h
        contradiction
      · rw [contextLength_of_le hlimit hle] at h
        exact (Except.ok.inj h).symm

/-- A context is no longer than what the model supports. -/
theorem le_of_contextLength {asked : Option UInt64} (h : contextLength asked m = .ok length)
    (hlimit : m.maxPositions = some limit) : length ≤ limit := by
  cases asked with
  | none =>
      rw [contextLength_of_limit hlimit] at h
      exact Nat.le_of_eq (Except.ok.inj h).symm
  | some requested =>
      rcases Nat.lt_or_ge limit requested.toNat with hgt | hle
      · rw [contextLength_of_gt hlimit hgt] at h
        contradiction
      · rw [eq_of_contextLength h]
        exact hle

/-! ## Plans -/

variable {s : LaunchSettings} {target : PreparedModel}
  {speculative : Option (PreparedModel × Pairing)} {plan : LaunchPlan} {n : Int}

/-- The plan of settings with this context length. -/
def ofContext (s : LaunchSettings) (target : PreparedModel)
    (speculative : Option (PreparedModel × Pairing)) (length : Nat) : LaunchPlan where
  servedModelName := s.servedModelName.getD target.resolved.locator
  dtype := s.dtype
  maxModelLen := length
  gpuMemoryUtilization := s.gpuMemoryUtilization
  tensorParallelSize := s.tensorParallelSize
  target := .ofPrepared target
  speculative := speculative.map fun (draft, pairing) =>
    ⟨.ofPrepared draft, s.numSpeculativeTokens, pairing.adapter.shared⟩

theorem build_of_admissible (h : s.Admissible speculative.isSome) :
    build s target speculative =
      (contextLength s.maxModelLen (.ofPrepared target)).map (ofContext s target speculative) := by
  have hvalidate := (s.validate_eq_ok_iff speculative.isSome).mpr h
  simp only [build, hvalidate]
  cases contextLength s.maxModelLen (.ofPrepared target) with
  | error e => rfl
  | ok length => rfl

/-- A plan comes of admissible settings and a context length, and of nothing else. -/
theorem exists_contextLength_of_build (h : build s target speculative = .ok plan) :
    s.Admissible speculative.isSome ∧ ∃ length,
      contextLength s.maxModelLen (.ofPrepared target) = .ok length ∧
      plan = ofContext s target speculative length := by
  have hadmissible : s.Admissible speculative.isSome := by
    rw [← s.validate_eq_ok_iff]
    rw [build] at h
    cases hvalidate : s.validate speculative.isSome with
    | error e => simp [hvalidate] at h
    | ok => rfl
  rw [build_of_admissible hadmissible] at h
  cases hlength : contextLength s.maxModelLen (.ofPrepared target) with
  | error e =>
      rw [hlength] at h
      contradiction
  | ok length =>
      rw [hlength] at h
      exact ⟨hadmissible, length, rfl, (Except.ok.inj h).symm⟩

/-- The limits that a plan keeps. -/
structure KeepsLimits (s : LaunchSettings) (target : PreparedModel) (drafted : Bool)
    (plan : LaunchPlan) : Prop where
  utilization : plan.gpuMemoryUtilization = s.gpuMemoryUtilization ∧
    ∃ q, plan.gpuMemoryUtilization.toRat? = some q ∧ 0 < q ∧ q ≤ 1
  parallel : plan.tensorParallelSize = s.tensorParallelSize ∧ 1 ≤ plan.tensorParallelSize.toNat
  speculative : plan.speculative.isSome = drafted ∧ ∀ launch, plan.speculative = some launch →
    launch.numSpeculativeTokens = s.numSpeculativeTokens ∧
      1 ≤ launch.numSpeculativeTokens.toNat
  requested : ∀ requested, s.maxModelLen = some requested → plan.maxModelLen = requested.toNat
  /-- Declared positions are a limit if they are a size in the range of signed words, and the
  context where none is asked for. -/
  context : ∀ n, target.resolved.config.declaredPositions? = some n → 0 ≤ n → n < signedBound →
    (plan.maxModelLen : Int) ≤ n ∧ (s.maxModelLen = none → (plan.maxModelLen : Int) = n)
  /-- Beyond that range they are one for settings that do not ask for more. -/
  beyond : target.resolved.config.HoldsWords →
    ∀ n, target.resolved.config.declaredPositions? = some n → signedBound ≤ n → s.AsksAtMost n →
      (plan.maxModelLen : Int) ≤ n

theorem maxPositions_of_declared (hn : target.resolved.config.declaredPositions? = some n)
    (hnonneg : 0 ≤ n) (hbound : n < signedBound) :
    (ModelPlan.ofPrepared target).maxPositions = some n.toNat := by
  have hsigned : IsSigned n := ⟨by omega, hbound⟩
  rw [ModelPlan.ofPrepared, Descriptor.maxPositions?_of_declared hn hsigned, Descriptor.sizeOf?,
    if_pos hnonneg]

theorem le_of_beyond (hwords : target.resolved.config.HoldsWords) (hn : (signedBound : Int) ≤ n)
    (hasks : s.AsksAtMost n) {length : Nat}
    (h : contextLength s.maxModelLen (.ofPrepared target) = .ok length) : (length : Int) ≤ n := by
  cases hasked : s.maxModelLen with
  | some requested =>
      rw [hasked] at h
      rw [eq_of_contextLength h]
      exact hasks requested hasked
  | none =>
      cases hlimit : target.resolved.config.maxPositions? with
      | some limit =>
          have hle : length ≤ limit := le_of_contextLength h hlimit
          have hlt := Descriptor.lt_of_maxPositions? hwords hlimit
          omega
      | none =>
          have hdefault : defaultMaxModelLen < signedBound := by decide
          rw [hasked, contextLength_of_no_limit hlimit] at h
          obtain rfl := Except.ok.inj h
          simp only [Option.map_none, Option.getD_none]
          omega

theorem keepsLimits_of_build (h : build s target speculative = .ok plan) :
    plan.KeepsLimits s target speculative.isSome := by
  obtain ⟨hadmissible, length, hlength, rfl⟩ := exists_contextLength_of_build h
  refine ⟨⟨rfl, hadmissible.utilization⟩, ⟨rfl, hadmissible.parallel⟩, ⟨?_, ?_⟩, ?_, ?_, ?_⟩
  · exact Option.isSome_map
  · intro launch hlaunch
    obtain ⟨both, hboth, rfl⟩ := Option.map_eq_some_iff.mp hlaunch
    exact ⟨rfl, hadmissible.tokens (by rw [hboth]; rfl)⟩
  · intro requested hrequested
    rw [hrequested] at hlength
    exact eq_of_contextLength hlength
  · intro n hn hnonneg hbound
    have hlimit := maxPositions_of_declared hn hnonneg hbound
    have hle := le_of_contextLength hlength hlimit
    have hplanned : ((ofContext s target speculative length).maxModelLen : Int) = length := rfl
    rw [hplanned]
    refine ⟨by omega, fun hunasked => ?_⟩
    rw [hunasked, contextLength_of_limit hlimit] at hlength
    have heq := Except.ok.inj hlength
    omega
  · intro hwords n hn hbeyond hasks
    exact le_of_beyond hwords hbeyond hasks hlength

/-- A context longer than the declared positions is refused, and a shorter one is planned. -/
theorem build_of_declared (hadmissible : s.Admissible speculative.isSome)
    (hn : target.resolved.config.declaredPositions? = some n) (hnonneg : 0 ≤ n)
    (hbound : n < signedBound) :
    (∀ requested, s.maxModelLen = some requested → n < requested.toNat →
      build s target speculative =
        .error (.contextTooLong target.architecture requested.toNat n.toNat)) ∧
    (s.AsksAtMost n → ∃ plan, build s target speculative = .ok plan) := by
  have hlimit := maxPositions_of_declared hn hnonneg hbound
  rw [build_of_admissible hadmissible]
  constructor
  · intro requested hrequested hgt
    rw [hrequested, contextLength_of_gt hlimit (by omega)]
    rfl
  · intro hasks
    cases hasked : s.maxModelLen with
    | none =>
        rw [contextLength_of_limit hlimit]
        exact ⟨_, rfl⟩
    | some requested =>
        have hle := hasks requested hasked
        rw [contextLength_of_le hlimit (by omega)]
        exact ⟨_, rfl⟩

/-- Negative positions are no limit: there is a plan for any context, and for the default one if
none is asked for. -/
theorem build_of_negative (hadmissible : s.Admissible speculative.isSome)
    (hn : target.resolved.config.declaredPositions? = some n) (hsigned : IsSigned n)
    (hnegative : n < 0) :
    ∃ plan, build s target speculative = .ok plan ∧
      plan.maxModelLen = (s.maxModelLen.map UInt64.toNat).getD defaultMaxModelLen := by
  have hlimit : (ModelPlan.ofPrepared target).maxPositions = none := by
    rw [ModelPlan.ofPrepared, Descriptor.maxPositions?_of_declared hn hsigned, Descriptor.sizeOf?,
      if_neg (Int.not_le.mpr hnegative)]
  rw [build_of_admissible hadmissible, contextLength_of_no_limit hlimit]
  exact ⟨_, rfl, rfl⟩

/-- **Plans keep their limits**: a plan has the utilization that was asked for, above zero and up
to one, at least one device and, with a draft, at least one speculative token, and a context no
longer than the declared positions, as far as these are a size in the range of signed words. For
sound settings, a context that is asked for beyond them is refused, naming both numbers, and one
up to them is planned. Only negative positions, which are read as none, are no limit. -/
theorem plans_keep_limits (s : LaunchSettings) (target : PreparedModel)
    (speculative : Option (PreparedModel × Pairing)) :
    (∀ plan, build s target speculative = .ok plan →
      plan.KeepsLimits s target speculative.isSome) ∧
    (s.Admissible speculative.isSome →
      ∀ n, target.resolved.config.declaredPositions? = some n →
        (0 ≤ n → n < signedBound →
          (∀ requested, s.maxModelLen = some requested → n < requested.toNat →
            build s target speculative =
              .error (.contextTooLong target.architecture requested.toNat n.toNat)) ∧
          (s.AsksAtMost n → ∃ plan, build s target speculative = .ok plan)) ∧
        (IsSigned n → n < 0 → ∃ plan, build s target speculative = .ok plan ∧
          plan.maxModelLen = (s.maxModelLen.map UInt64.toNat).getD defaultMaxModelLen)) := by
  refine ⟨fun plan => keepsLimits_of_build, ?_⟩
  intro hadmissible n hn
  constructor
  · intro hnonneg hbound
    exact build_of_declared hadmissible hn hnonneg hbound
  · intro hsigned hnegative
    exact build_of_negative hadmissible hn hsigned hnegative

end LaunchPlan

namespace Setup

/-- The verifier, with a checkpoint of this many positions. -/
def positionedAt (n : Int) : Setup :=
  { sized with
    mapping := .ofList [
      ("WideForCausalLM", sizedClass.withField (.optional "max_position_embeddings" .integer)),
      ("DraftForCausalLM", sizedClass)]
    fetcher := .memory [
      ("wide", (Checkpoint.ofArchitectures ["WideForCausalLM"]).withField "hidden_size" (.int 16)
        |>.withField "max_position_embeddings" (.int n))] true }

/-- Settings that ask for this context length and for nothing else. -/
def asking (length : UInt64) : LaunchSettings :=
  { LaunchSettings.default with maxModelLen := some length }

/-- Of 32 positions, 64 are refused. -/
theorem longer_context_is_refused :
    ∃ service target, (positionedAt 32).start .empty = .ok service ∧
      ((Service.prepare .empty "wide").run service).1 = .ok target ∧
      LaunchPlan.build (asking 64) target.value none =
        .error (.contextTooLong "WideForCausalLM" 64 32) := by
  obtain ⟨service, target, hstart, hprepare, hdeclared, hname⟩ : ∃ service target,
      (positionedAt 32).start .empty = .ok service ∧
      ((Service.prepare .empty "wide").run service).1 = .ok target ∧
      target.value.resolved.config.declaredPositions? = some 32 ∧
      target.value.architecture = "WideForCausalLM" := ⟨_, _, rfl, rfl, rfl, rfl⟩
  have hadmissible : (asking 64).Admissible false :=
    ((asking 64).validate_eq_ok_iff false).mp rfl
  have hdecided := (LaunchPlan.plans_keep_limits (asking 64) target.value none).2 hadmissible 32
    hdeclared
  have hrefused := (hdecided.1 (by decide) (by decide)).1 64 rfl (by decide)
  rw [hname] at hrefused
  exact ⟨service, target, hstart, hprepare, hrefused⟩

/-- Of minus one position, 64 are planned. -/
theorem negative_positions_pass :
    ∃ service target plan, (positionedAt (-1)).start .empty = .ok service ∧
      ((Service.prepare .empty "wide").run service).1 = .ok target ∧
      target.value.resolved.config.declaredPositions? = some (-1) ∧
      LaunchPlan.build (asking 64) target.value none = .ok plan ∧ plan.maxModelLen = 64 :=
  ⟨_, _, _, rfl, rfl, rfl, rfl, rfl⟩

end Setup

end ModelRegistry
