import ModelRegistry.Loading
import ModelRegistry.Proofs.Architecture.Registry
import ModelRegistry.Proofs.Config.Selection

/-!
# ModelRegistry.Proofs.Resolution

What resolution selects for a checkpoint, and what it leaves behind. A resolver
that has resolved checkpoints is the resolver it was, but for what its source
remembers; `Asks` says which look-ups that comes from, and `Continues` is all that
later resolutions need of it if the answers of the source are fixed. For a
checkpoint with a registered architecture the selection then depends on nothing
but the mapping and what the source says about that architecture.
-/

namespace ModelRegistry

namespace Resolver

variable {r r' r'' : Resolver} {trees : Files → Prop} {files : Files} {c : Checkpoint}
  {a : Architecture} {locator : String} {fetcher : Fetcher}

/-! ## What is selected -/

/-- The architecture for which a checkpoint is resolved, with the choice of its class. -/
def selection? (r : Resolver) (files : Files) (c : Checkpoint) : Option (String × Selection) :=
  (r.architecture? c).map fun architecture =>
    (architecture,
      r.mapping.select (r.source.answer files) architecture (r.modelType? architecture c))

theorem resolve_of_selection? {architecture : String} {selection : Selection}
    (h : r.selection? files c = some (architecture, selection)) :
    r.resolve files c = instantiate architecture selection c := by
  rw [selection?] at h
  rw [resolve]
  cases harch : r.architecture? c with
  | none => simp [harch] at h
  | some id =>
      simp only [harch, Option.map_some, Option.some.injEq, Prod.mk.injEq] at h
      obtain ⟨rfl, rfl⟩ := h
      rfl

theorem instantiate_of_chosen (architecture : String) (strategy : Strategy)
    (chosen : Shared ConfigClass) (attempts : List Attempt) (c : Checkpoint) :
    instantiate architecture ⟨some (strategy, chosen), attempts⟩ c =
      match Config.instantiate ⟨architecture, strategy⟩ none c.fields chosen.value with
      | .ok config => .ok config
      | .error v => .error ⟨architecture, .invalidConfig chosen.value.name v,
          attempts ++ [⟨strategy, .rejected chosen.value.name v⟩]⟩ := by
  cases h : Config.instantiate ⟨architecture, strategy⟩ none c.fields chosen.value with
  | ok config => simp only [instantiate, h]
  | error v => simp only [instantiate, h]

theorem architecture?_of_answersFor (h : r.registry.AnswersFor c.architectures a) :
    r.architecture? c = some a.id := by
  rw [architecture?, Registry.resolveFirst_eq_ok_iff.mpr h]

theorem architecture?_of_prefers {id : String} (h : r.registry.Prefers c.architectures id) :
    r.architecture? c = some id := by
  rw [architecture?]
  generalize hids : c.architectures = ids at h
  cases h with
  | @registered before after id hbefore hid =>
      obtain ⟨a, ha⟩ := Registry.exists_find?_of_contains hid
      obtain rfl := Registry.id_of_find? ha
      rw [Registry.resolveFirst_eq_ok_iff.mpr ⟨⟨before, after, rfl, hbefore⟩, ha⟩]
  | @unregistered id rest hnone =>
      cases hfirst : r.registry.resolveFirst (id :: rest) with
      | error e => rw [Checkpoint.primaryArchitecture?, hids]; rfl
      | ok a =>
          obtain ⟨⟨before, after, hsplit, -⟩, ha⟩ := Registry.resolveFirst_eq_ok_iff.mp hfirst
          have hmem : a.id ∈ id :: rest := by simp [hsplit]
          have hcontains := Registry.contains_of_find? ha
          rw [hnone a.id hmem] at hcontains
          contradiction

theorem prefers_of_architecture? {id : String} (h : r.architecture? c = some id) :
    r.registry.Prefers c.architectures id := by
  rw [architecture?] at h
  cases hfirst : r.registry.resolveFirst c.architectures with
  | ok a =>
      rw [hfirst] at h
      obtain rfl := Option.some.inj h
      obtain ⟨⟨before, after, hsplit, hbefore⟩, ha⟩ := Registry.resolveFirst_eq_ok_iff.mp hfirst
      rw [hsplit]
      exact .registered hbefore (Registry.contains_of_find? ha)
  | error e =>
      rw [hfirst] at h
      obtain ⟨rest, hids⟩ : ∃ rest, c.architectures = id :: rest := by
        cases hids : c.architectures <;> simp_all [Checkpoint.primaryArchitecture?]
      rw [hids]
      refine .unregistered fun other hother => ?_
      by_cases hcontains : r.registry.contains other = true
      · obtain ⟨a, ha⟩ := Registry.exists_answersFor (hids ▸ hother) hcontains
        rw [Registry.resolveFirst_eq_ok_iff.mpr ha] at hfirst
        contradiction
      · simpa using hcontains

theorem architectures_of_architecture?_eq_none (h : r.architecture? c = none) :
    c.architectures = [] := by
  rw [architecture?] at h
  split at h
  · cases h
  · simpa [Checkpoint.primaryArchitecture?] using h

theorem modelType?_of_answersFor (h : r.registry.AnswersFor c.architectures a) :
    r.modelType? a.id c = a.modelType.or c.modelType := by
  rw [modelType?, h.found]
  rfl

theorem selection?_of_answersFor (h : r.registry.AnswersFor c.architectures a) (files : Files) :
    r.selection? files c =
      some (a.id, r.mapping.select (r.source.answer files) a.id (a.modelType.or c.modelType)) := by
  rw [selection?, architecture?_of_answersFor h, Option.map_some, modelType?_of_answersFor h]

/-- Where a class is chosen for an entry with the model type declared with it, the same choice is
made for every checkpoint that the entry answers for. -/
theorem selection?_of_settled (h : r.registry.AnswersFor c.architectures a)
    {x : SourceAnswer (Shared ConfigClass)}
    (hsettled : r.mapping.contains a.id = false → r.source.Settled trees a.id x)
    (hfiles : trees files) {selection : Selection} {pick : Strategy × Shared ConfigClass}
    (hselect : r.mapping.select (fun _ => x) a.id a.modelType = selection)
    (hchosen : selection.chosen = some pick) :
    r.selection? files c = some (a.id, selection) := by
  rw [selection?_of_answersFor h]
  have hsame : r.mapping.select (r.source.answer files) a.id (a.modelType.or c.modelType) =
      r.mapping.select (fun _ => x) a.id (a.modelType.or c.modelType) :=
    ClassMapping.select_congr (fun hmapped => (hsettled hmapped).answer_eq hfiles) _
  rw [hsame, ClassMapping.select_or (by rw [hselect, hchosen]), hselect]

/-! ## What is loaded -/

theorem entryOf_of_answersFor (h : r.registry.AnswersFor c.architectures a) :
    r.entryOf c = .ok a := by
  have hfirst : r.registry.resolveFirst c.architectures = .ok a :=
    Registry.resolveFirst_eq_ok_iff.mpr h
  rw [entryOf, hfirst]
  obtain ⟨⟨before, after, hsplit, -⟩, -⟩ := h
  simp [hsplit]

/-- What loading makes of the resolution of a checkpoint whose entry is known. -/
def loadOf (locator : String) (a : Architecture) (c : Checkpoint) :
    Except ResolutionError Descriptor → Except LoadError ResolvedModel
  | .ok config => .ok ⟨locator, a, c, config⟩
  | .error e => .error (.resolution e)

/-- Loading a checkpoint with a registered architecture comes to what was selected for it. -/
theorem resolveModel_of_selection? (h : r.registry.AnswersFor c.architectures a)
    {selection : Selection} (hselection : r.selection? files c = some (a.id, selection))
    (hfetch : fetcher.fetch files locator = .ok c) :
    r.resolveModel files fetcher locator =
      loadOf locator a c (instantiate a.id selection c) := by
  rw [resolveModel, hfetch, ← resolve_of_selection? hselection]
  cases hresolve : r.resolve files c with
  | ok config => simp only [identify, entryOf_of_answersFor h, hresolve, loadOf]
  | error e => simp only [identify, entryOf_of_answersFor h, hresolve, loadOf]

/-! ## What is left behind -/

/-- The second resolver may have come from the first by look-ups in its source. -/
structure Continues (trees : Files → Prop) (r r' : Resolver) : Prop where
  registry : r'.registry = r.registry
  mapping : r'.mapping = r.mapping
  settled : ∀ {id x}, r.source.Settled trees id x → r'.source.Settled trees id x

namespace Continues

theorem refl (r : Resolver) : Continues trees r r :=
  ⟨rfl, rfl, id⟩

theorem trans (h : Continues trees r r') (h' : Continues trees r' r'') :
    Continues trees r r'' :=
  ⟨h'.registry.trans h.registry, h'.mapping.trans h.mapping, fun hx => h'.settled (h.settled hx)⟩

end Continues

/-- The second resolver is the first one after look-ups in its source. -/
structure Asks (trees : Files → Prop) (r r' : Resolver) : Prop where
  registry : r'.registry = r.registry
  mapping : r'.mapping = r.mapping
  source : ∃ asked : List (Files × String), (∀ look ∈ asked, trees look.1) ∧
    r'.source = r.source.afterLookups asked

namespace Asks

theorem refl (r : Resolver) : Asks trees r r :=
  ⟨rfl, rfl, [], by simp, rfl⟩

theorem trans (h : Asks trees r r') (h' : Asks trees r' r'') : Asks trees r r'' := by
  obtain ⟨asked, hasked, hsource⟩ := h.source
  obtain ⟨more, hmore, hsource'⟩ := h'.source
  refine ⟨h'.registry.trans h.registry, h'.mapping.trans h.mapping, asked ++ more,
    List.forall_mem_append.mpr ⟨hasked, hmore⟩, ?_⟩
  rw [hsource', hsource, ClassSource.afterLookups_append]

/-- What every look-up keeps of the source is kept. -/
theorem kept (h : Asks trees r r') (kept : ClassSource → Prop) (hkept : kept r.source)
    (hstep : ∀ s files other, trees files → kept s → kept (s.afterLookup files other)) :
    kept r'.source := by
  obtain ⟨asked, hasked, hsource⟩ := h.source
  rw [hsource]
  exact ClassSource.kept_afterLookups kept hkept hstep hasked

theorem continues (h : Asks trees r r') : Continues trees r r' := by
  obtain ⟨asked, hasked, hsource⟩ := h.source
  refine ⟨h.registry, h.mapping, ?_⟩
  intro id x hx
  rw [hsource]
  exact hx.afterLookups hasked

end Asks

theorem asks_afterSelect (hfiles : trees files) (architecture : String) :
    Asks trees r (r.afterSelect files architecture) := by
  rw [afterSelect]
  split
  · exact .refl r
  · exact ⟨rfl, rfl, [(files, architecture)], by simpa using hfiles, rfl⟩

theorem asks_afterResolve (hfiles : trees files) (c : Checkpoint) :
    Asks trees r (r.afterResolve files c) := by
  rw [afterResolve]
  split
  · exact .refl r
  · exact asks_afterSelect hfiles _

theorem asks_afterResolveModel (hfiles : trees files) (fetcher : Fetcher) (locator : String) :
    Asks trees r (r.afterResolveModel files fetcher locator) := by
  rw [afterResolveModel]
  split
  · exact .refl r
  · split
    · exact .refl r
    · exact asks_afterResolve hfiles _

end Resolver

end ModelRegistry
