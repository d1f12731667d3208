import ModelRegistry.Proofs.Config.Class
import ModelRegistry.Proofs.Resolution

/-!
# ModelRegistry.Proofs.Authority

The first tier that has a class decides alone. What the tiers behind it would say
is never asked, so that no change of the source, of the aliases or of a model type
shows in the result of a resolution that an earlier tier decides; this includes
the checkpoints that the class refuses. An error tells which tiers were asked and
what came of each.
-/

namespace ModelRegistry

/-- The tiers that are asked before this one. -/
def Strategy.earlier : Strategy → List Strategy
  | .explicitMapping => []
  | .autoDetect => [.explicitMapping]
  | .modelTypeAlias => [.explicitMapping, .autoDetect]

/-- Two checkpoints differ in their model type at most. -/
structure Checkpoint.SameButModelType (c c' : Checkpoint) : Prop where
  architectures : c'.architectures = c.architectures
  fields : c'.fields = c.fields

/-- The same ids are registered, whatever is declared with them. -/
def Registry.SameIds (r r' : Registry) : Prop :=
  ∀ id, r'.contains id = r.contains id

namespace Resolver

variable {r r' : Resolver} {files files' : Files} {c c' : Checkpoint} {id : String}
  {k : Shared ConfigClass}

/-! ## Decisions -/

theorem instantiate_of_same (h : c.SameButModelType c') (selection : Selection) :
    instantiate id selection c' = instantiate id selection c := by
  rw [instantiate, instantiate, h.fields]

theorem resolve_of_mapped (hid : r.registry.Prefers c.architectures id)
    (hmapped : r.mapping.get? id = some k) :
    r.resolve files c = instantiate id ⟨some (.explicitMapping, k), []⟩ c := by
  rw [resolve, architecture?_of_prefers hid]
  simp only [ClassMapping.select_of_get? hmapped]

theorem resolve_of_published (hid : r.registry.Prefers c.architectures id)
    (hunmapped : r.mapping.get? id = none)
    (hpublished : r.source.answer files id = .ok (some k)) :
    r.resolve files c =
      instantiate id ⟨some (.autoDetect, k), [⟨.explicitMapping, .noClass⟩]⟩ c := by
  rw [resolve, architecture?_of_prefers hid]
  simp only [ClassMapping.select, hunmapped, hpublished]

theorem prefers_of_same (hids : r.registry.SameIds r'.registry) (hsame : c.SameButModelType c')
    (hid : r.registry.Prefers c.architectures id) :
    r'.registry.Prefers c'.architectures id := by
  rw [hsame.architectures]
  exact hid.congr hids

/-! ## The tiers that were asked -/

/-- A tier was asked for the class of an architecture and has none, and this came of it. -/
inductive Misses (r : Resolver) (files : Files) (c : Checkpoint) (id : String) :
    Attempt → Prop where
  | unmapped : r.mapping.get? id = none → Misses r files c id ⟨.explicitMapping, .noClass⟩
  | unpublished : r.source.answer files id = .ok none → Misses r files c id ⟨.autoDetect, .noClass⟩
  | failed {e : SourceError} : r.source.answer files id = .error e →
      Misses r files c id ⟨.autoDetect, .sourceFailed e⟩
  | unclaimed {m : String} : r.modelType? id c = some m → r.mapping.alias? m = none →
      Misses r files c id ⟨.modelTypeAlias, .noClass⟩

/-- A tier has this class for an architecture. -/
inductive Has (r : Resolver) (files : Files) (c : Checkpoint) (id : String) :
    Strategy → Shared ConfigClass → Prop where
  | mapped {k : Shared ConfigClass} : r.mapping.get? id = some k →
      Has r files c id .explicitMapping k
  | published {k : Shared ConfigClass} : r.source.answer files id = .ok (some k) →
      Has r files c id .autoDetect k
  | claimed {m : String} {k : Shared ConfigClass} : r.modelType? id c = some m →
      r.mapping.alias? m = some k → Has r files c id .modelTypeAlias k

/-- An error tells the truth about the tiers that were asked, each in its turn. -/
inductive Accounts (r : Resolver) (files : Files) (c : Checkpoint) : ResolutionError → Prop where
  /-- Without an architecture no tier is asked. -/
  | missing : c.architectures = [] →
      Accounts r files c ⟨c.modelType.getD "<unknown>", .missingArchitecture, []⟩
  /-- The tier that refused the checkpoint comes last, after those that had no class. -/
  | rejected {id : String} {strategy : Strategy} {k : Shared ConfigClass} {v : Violation}
      {before : List Attempt} :
      r.registry.Prefers c.architectures id → before.map (·.strategy) = strategy.earlier →
      (∀ a ∈ before, Misses r files c id a) → Has r files c id strategy k →
      Config.instantiate ⟨id, strategy⟩ none c.fields k.value = .error v →
      Accounts r files c ⟨id, .invalidConfig k.value.name v,
        before ++ [⟨strategy, .rejected k.value.name v⟩]⟩
  /-- No tier had a class; the last one was asked if there is a model type to ask it for. -/
  | unresolved {id : String} {attempts : List Attempt} :
      r.registry.Prefers c.architectures id →
      attempts.map (·.strategy) = [.explicitMapping, .autoDetect] ++
        (if (r.modelType? id c).isSome then [.modelTypeAlias] else []) →
      (∀ a ∈ attempts, Misses r files c id a) →
      Accounts r files c ⟨id, .unresolvedArchitecture, attempts⟩

/-- What the first two tiers came to if neither had a class. -/
structure Passed (r : Resolver) (files : Files) (c : Checkpoint) (id : String)
    (before : List Attempt) : Prop where
  strategies : before.map (·.strategy) = [.explicitMapping, .autoDetect]
  misses : ∀ a ∈ before, Misses r files c id a

theorem passed_of_unpublished (hunmapped : r.mapping.get? id = none)
    (h : r.source.answer files id = .ok none) :
    Passed r files c id [⟨.explicitMapping, .noClass⟩, ⟨.autoDetect, .noClass⟩] :=
  ⟨rfl, by simp [Misses.unmapped hunmapped, Misses.unpublished h]⟩

theorem passed_of_failed (hunmapped : r.mapping.get? id = none) {e : SourceError}
    (h : r.source.answer files id = .error e) :
    Passed r files c id [⟨.explicitMapping, .noClass⟩, ⟨.autoDetect, .sourceFailed e⟩] :=
  ⟨rfl, by simp [Misses.unmapped hunmapped, Misses.failed h]⟩

/-- A refused checkpoint is accounted for by the tier that refused it. -/
theorem accounts_of_rejected {strategy : Strategy} {before : List Attempt}
    (hid : r.registry.Prefers c.architectures id)
    (hbefore : before.map (·.strategy) = strategy.earlier)
    (hmisses : ∀ a ∈ before, Misses r files c id a) (hhas : Has r files c id strategy k)
    {e : ResolutionError} (h : instantiate id ⟨some (strategy, k), before⟩ c = .error e) :
    Accounts r files c e := by
  rw [instantiate_of_chosen] at h
  cases hread : Config.instantiate ⟨id, strategy⟩ none c.fields k.value with
  | ok d => simp [hread] at h
  | error v =>
      simp only [hread] at h
      obtain rfl := Except.error.inj h
      exact .rejected hid hbefore hmisses hhas hread

/-- The last tier is asked if a model type is known. -/
theorem accounts_of_passed {before : List Attempt} (hid : r.registry.Prefers c.architectures id)
    (hpassed : Passed r files c id before) {e : ResolutionError}
    (h : instantiate id (.ofModelType r.mapping (r.modelType? id c) before) c = .error e) :
    Accounts r files c e := by
  cases hmodel : r.modelType? id c with
  | none =>
      simp only [hmodel, Selection.ofModelType, instantiate] at h
      obtain rfl := Except.error.inj h
      exact .unresolved hid (by simp [hpassed.strategies, hmodel]) hpassed.misses
  | some m =>
      cases hclaimed : r.mapping.alias? m with
      | some k =>
          simp only [hmodel, Selection.ofModelType, hclaimed] at h
          exact accounts_of_rejected hid hpassed.strategies hpassed.misses
            (.claimed hmodel hclaimed) h
      | none =>
          simp only [hmodel, Selection.ofModelType, hclaimed, instantiate] at h
          obtain rfl := Except.error.inj h
          refine .unresolved hid (by simp [hpassed.strategies, hmodel]) ?_
          intro a ha
          rcases List.mem_append.mp ha with ha | ha
          · exact hpassed.misses a ha
          · rw [List.mem_singleton.mp ha]
            exact .unclaimed hmodel hclaimed

theorem accounts_of_error {e : ResolutionError} (h : r.resolve files c = .error e) :
    Accounts r files c e := by
  cases harchitecture : r.architecture? c with
  | none =>
      simp only [resolve, harchitecture] at h
      obtain rfl := Except.error.inj h
      exact .missing (architectures_of_architecture?_eq_none harchitecture)
  | some id =>
      have hid := prefers_of_architecture? harchitecture
      cases hget : r.mapping.get? id with
      | some k =>
          rw [resolve_of_mapped hid hget] at h
          exact accounts_of_rejected hid rfl (by simp) (.mapped hget) h
      | none =>
          cases hsource : r.source.answer files id with
          | error fault =>
              simp only [resolve, harchitecture, ClassMapping.select, hget, hsource] at h
              exact accounts_of_passed hid (passed_of_failed hget hsource) h
          | ok answer =>
              cases answer with
              | some k =>
                  rw [resolve_of_published hid hget hsource] at h
                  exact accounts_of_rejected hid rfl (by simp [Misses.unmapped hget])
                    (.published hsource) h
              | none =>
                  simp only [resolve, harchitecture, ClassMapping.select, hget, hsource] at h
                  exact accounts_of_passed hid (passed_of_unpublished hget hsource) h

/-! ## Main theorem -/

/-- **A tier with a class is authoritative**: let `id` be the architecture that counts for a
checkpoint. If it is mapped, the result of resolution, be it a descriptor or an error with its
attempts, is the same under any other source, other aliases and other model types, declared or in
the checkpoint. If it is not mapped and the source has a class for it, the result is the same under
any other aliases and model types. And every error accounts for the tiers that were asked. -/
theorem first_tier_with_class_decides (r : Resolver) (files : Files) (c : Checkpoint) :
    (∀ id, r.registry.Prefers c.architectures id →
      ∀ (r' : Resolver) (files' : Files) (c' : Checkpoint),
        r.registry.SameIds r'.registry → c.SameButModelType c' →
        (∀ k, r.mapping.get? id = some k → r'.mapping.get? id = some k →
          r'.resolve files' c' = r.resolve files c) ∧
        (∀ k, r.mapping.get? id = none → r.source.answer files id = .ok (some k) →
          r'.mapping.get? id = none → r'.source.answer files' id = .ok (some k) →
          r'.resolve files' c' = r.resolve files c)) ∧
    ∀ e, r.resolve files c = .error e → Accounts r files c e := by
  refine ⟨?_, fun e => accounts_of_error⟩
  intro id hid r' files' c' hids hsame
  have hid' := prefers_of_same hids hsame hid
  constructor
  · intro k hget hget'
    rw [resolve_of_mapped hid' hget', resolve_of_mapped hid hget, instantiate_of_same hsame]
  · intro k hget hsource hget' hsource'
    rw [resolve_of_published hid' hget' hsource', resolve_of_published hid hget hsource,
      instantiate_of_same hsame]

/-- One registered architecture, declared with this model type or without any. -/
def single (modelType : Option String) (classes : List (String × ConfigClass))
    (source : StaticSource) : Resolver where
  registry := Registry.freeze ⟨ArchitectureTable.empty.insert
    ⟨"SplitForCausalLM", [.text], ⟨"models", "Split"⟩, modelType, none⟩ rfl, none⟩
  mapping := .ofList classes
  source := .static source

theorem sameIds_single (m m' : Option String) (classes classes' : List (String × ConfigClass))
    (source source' : StaticSource) :
    (single m classes source).registry.SameIds (single m' classes' source').registry := by
  intro id
  rw [Bool.eq_iff_iff, Registry.contains_iff_mem_ids, Registry.contains_iff_mem_ids]
  exact Iff.rfl

/-- A checkpoint that declares an unknown architecture first and that the class refuses. -/
def refused (modelType : Option String) : Checkpoint :=
  ⟨["UnknownForCausalLM", "SplitForCausalLM"], modelType, ConfigClass.splitObject (.string "deep")⟩

/-- Neither a failing source nor one with another class shows in the error of a mapped class that
refuses the checkpoint, and no alias in that of a published one. -/
theorem refusal_is_authoritative :
    let other := (ConfigClass.empty "OtherConfig").withModelType "split"
    let failing : StaticSource := ⟨"unreadable", fun _ => .error (.io "A.json" "denied")⟩
    let publishing := StaticSource.ofClasses [("SplitForCausalLM", .split)]
    let mapped := single (some "split") [("SplitForCausalLM", .split)] failing
    let mapped' := single none [("SplitForCausalLM", .split), ("Other", other)] publishing
    let published := single (some "split") [] publishing
    let published' := single none [("Other", other)] publishing
    (∃ e, mapped.resolve .empty (refused none) = .error e ∧
      mapped'.resolve .empty (refused (some "split")) = .error e ∧
      e.attempts.map (·.strategy) = [.explicitMapping] ∧
      Accounts mapped .empty (refused none) e) ∧
    ∃ e, published.resolve .empty (refused none) = .error e ∧
      published'.resolve .empty (refused (some "split")) = .error e ∧
      e.attempts.map (·.strategy) = [.explicitMapping, .autoDetect] ∧
      Accounts published .empty (refused none) e := by
  intro other failing publishing mapped mapped' published published'
  have hprefers : ∀ r : Resolver, r.architecture? (refused none) = some "SplitForCausalLM" →
      r.registry.Prefers (refused none).architectures "SplitForCausalLM" :=
    fun r => prefers_of_architecture?
  have hsame : (refused none).SameButModelType (refused (some "split")) := ⟨rfl, rfl⟩
  obtain ⟨hdecides, haccounts⟩ := first_tier_with_class_decides mapped .empty (refused none)
  obtain ⟨hdecides', haccounts'⟩ := first_tier_with_class_decides published .empty (refused none)
  constructor
  · have hresult := (hdecides _ (hprefers mapped rfl) mapped' .empty _
      (sameIds_single _ _ _ _ _ _) hsame).1 ⟨0, .split⟩ rfl rfl
    exact ⟨_, rfl, hresult, rfl, haccounts _ rfl⟩
  · have hresult := (hdecides' _ (hprefers published rfl) published' .empty _
      (sameIds_single _ _ _ _ _ _) hsame).2 ⟨0, .split⟩ rfl rfl rfl rfl
    exact ⟨_, rfl, hresult, rfl, haccounts' _ rfl⟩

end Resolver

end ModelRegistry
