import ModelRegistry.Proofs.Authority
import ModelRegistry.Proofs.Config.Conformance
import ModelRegistry.Proofs.Config.Identity

/-!
# ModelRegistry.Proofs.Loading

Loading a model against resolving its checkpoint. Loading looks the entry of a
model up by itself, and has no entry where the architectures are unknown;
resolution has its own look-up, and falls back to the first of them. Where there
is an entry the two look-ups agree, and loading comes to what resolution comes
to, whenever the one and the other are done.
-/

namespace ModelRegistry

namespace Resolver

variable {r now later : Resolver} {trees : Files → Prop} {files files' : Files} {c : Checkpoint}
  {a : Architecture} {id locator : String} {fetcher : Fetcher}

/-! ## Resolution at another time -/

/-- Reading a checkpoint does not depend on the identity of the class. -/
theorem instantiate_of_content {selection other : Selection}
    (h : selection.content = other.content) (id : String) (c : Checkpoint) :
    instantiate id selection c = instantiate id other c := by
  obtain ⟨chosen, attempts⟩ := selection
  obtain ⟨chosen', attempts'⟩ := other
  obtain ⟨hchosen, rfl⟩ := Prod.mk.inj h
  cases chosen with
  | none => cases chosen' <;> simp_all
  | some pick =>
      cases chosen' with
      | none => simp at hchosen
      | some pick' =>
          obtain ⟨strategy, k⟩ := pick
          obtain ⟨strategy', k'⟩ := pick'
          simp only [Option.map_some, Option.some.injEq, Prod.mk.injEq] at hchosen
          obtain ⟨rfl, hvalue⟩ := hchosen
          rw [instantiate_of_chosen, instantiate_of_chosen, hvalue]

theorem Asks.classFor_eq (h : Asks trees r later) (hfixed : r.source.Fixed trees)
    (hfiles : trees files) (id : String) :
    later.source.classFor files id = r.source.classFor files id := by
  obtain ⟨looks, hlooks, hsource⟩ := h.source
  rw [hsource, hfixed.classFor_afterLookups hlooks hfiles]

/-- Where the answers of the source are fixed, a checkpoint is resolved alike at any time. -/
theorem Asks.resolve_eq (h : Asks trees r later) (hfixed : r.source.Fixed trees)
    (hfiles : trees files) (hfiles' : trees files') (c : Checkpoint) :
    later.resolve files' c = r.resolve files c := by
  have harchitecture : later.architecture? c = r.architecture? c := by
    rw [architecture?, architecture?, h.registry]
  rw [resolve, resolve, harchitecture]
  cases r.architecture? c with
  | none => rfl
  | some id =>
      have hmodelType : later.modelType? id c = r.modelType? id c := by
        rw [modelType?, modelType?, h.registry]
      have hclass : later.source.classFor files' id = r.source.classFor files id := by
        rw [h.classFor_eq hfixed hfiles', hfixed.classFor_eq hfiles hfiles']
      rw [ClassSource.classFor_eq_map, ClassSource.classFor_eq_map] at hclass
      simp only [h.mapping, hmodelType]
      exact instantiate_of_content (ClassMapping.content_select_congr hclass _) id c

/-! ## The entry and the configuration -/

theorem entryOf_of_unregistered (hids : c.architectures ≠ [])
    (hnone : ∀ id ∈ c.architectures, r.registry.contains id = false) :
    r.entryOf c =
      .error (.unregistered (.unregisteredArchitecture (", ".intercalate c.architectures))) := by
  have hfirst := (Registry.resolveFirst_eq_error_iff hids).mpr ⟨hnone, rfl⟩
  rw [entryOf, if_neg (by simpa using hids), hfirst]

/-- A configuration was read from the fields of its checkpoint, against the class that was chosen
for the architecture. -/
theorem exists_instantiate_of_resolve {config : Descriptor} (h : r.resolve files c = .ok config) :
    ∃ id strategy k, r.architecture? c = some id ∧
      Config.instantiate ⟨id, strategy⟩ none c.fields k = .ok config := by
  rw [resolve] at h
  cases harchitecture : r.architecture? c with
  | none => simp [harchitecture] at h
  | some id =>
      simp only [harchitecture] at h
      generalize hselection : r.mapping.select _ id _ = selection at h
      obtain ⟨chosen, attempts⟩ := selection
      cases chosen with
      | none => simp [instantiate] at h
      | some pick =>
          obtain ⟨strategy, k⟩ := pick
          rw [instantiate_of_chosen] at h
          cases hread : Config.instantiate ⟨id, strategy⟩ none c.fields k.value with
          | error v => simp [hread] at h
          | ok d =>
              simp only [hread] at h
              obtain rfl := Except.ok.inj h
              exact ⟨id, strategy, k.value, rfl, hread⟩

/-- All descriptors of a configuration carry the architecture that counts for the checkpoint. -/
theorem architecture_of_mem_walk {config : Descriptor} (h : r.resolve files c = .ok config) :
    ∀ d ∈ config.walk, r.architecture? c = some d.architecture := by
  obtain ⟨id, strategy, k, harchitecture, hread⟩ := exists_instantiate_of_resolve h
  intro d hd
  have hprovenance := Config.provenance_of_mem_walk hread d hd
  rw [harchitecture, Descriptor.architecture, hprovenance]

theorem answersFor_of_entryOf (h : r.entryOf c = .ok a) :
    r.registry.AnswersFor c.architectures a := by
  rw [entryOf] at h
  split at h
  · cases h
  · cases hfirst : r.registry.resolveFirst c.architectures with
    | error e => simp [hfirst] at h
    | ok b =>
        rw [hfirst] at h
        exact Except.ok.inj h ▸ Registry.resolveFirst_eq_ok_iff.mp hfirst

theorem resolveModel_of_answersFor (h : r.registry.AnswersFor c.architectures a)
    (hfetch : fetcher.fetch files locator = .ok c) :
    r.resolveModel files fetcher locator = loadOf locator a c (r.resolve files c) := by
  have hselection := selection?_of_answersFor h files
  rw [resolveModel_of_selection? h hselection hfetch, resolve_of_selection? hselection]

/-- A loaded model has the entry and the configuration of its checkpoint. -/
theorem resolve_of_resolveModel {m : ResolvedModel}
    (h : r.resolveModel files fetcher locator = .ok m) :
    r.entryOf m.checkpoint = .ok m.entry ∧ r.resolve files m.checkpoint = .ok m.config := by
  rw [resolveModel] at h
  cases hfetch : fetcher.fetch files locator with
  | error e => simp [hfetch] at h
  | ok c =>
      simp only [hfetch, identify] at h
      cases hentry : r.entryOf c with
      | error e => simp [hentry] at h
      | ok a =>
          simp only [hentry] at h
          cases hconfig : r.resolve files c with
          | error e => simp [hconfig] at h
          | ok config =>
              simp only [hconfig] at h
              obtain rfl := Except.ok.inj h
              exact ⟨hentry, hconfig⟩

/-- A loaded model has the entry that answers for its checkpoint, and its configuration was resolved
for that entry, down to what is nested in it. -/
theorem architecture_of_resolveModel {m : ResolvedModel}
    (h : r.resolveModel files fetcher locator = .ok m) :
    r.registry.AnswersFor m.checkpoint.architectures m.entry ∧
      ∀ d ∈ m.config.walk, d.architecture = m.entry.id := by
  obtain ⟨hentry, hconfig⟩ := resolve_of_resolveModel h
  have hanswers := answersFor_of_entryOf hentry
  refine ⟨hanswers, fun d hd => ?_⟩
  have harchitecture := architecture_of_mem_walk hconfig d hd
  rw [architecture?_of_answersFor hanswers] at harchitecture
  exact (Option.some.inj harchitecture).symm

/-! ## Main theorem -/

/-- What a load comes to, given what was fetched and what resolution makes of a checkpoint. -/
structure LoadsAs (registry : Registry) (locator : String)
    (fetched : Except FetchError Checkpoint)
    (resolution : Checkpoint → Except ResolutionError Descriptor)
    (result : Except LoadError ResolvedModel) : Prop where
  unfetched : ∀ e, fetched = .error e → result = .error (.fetch e)
  missing : ∀ c, fetched = .ok c → c.architectures = [] →
    result = .error (.resolution ⟨c.modelType.getD "<unknown>", .missingArchitecture, []⟩)
  /-- The error names all the architectures. -/
  unregistered : ∀ c, fetched = .ok c → c.architectures ≠ [] →
    (∀ id ∈ c.architectures, registry.contains id = false) →
    result = .error (.unregistered (.unregisteredArchitecture (", ".intercalate c.architectures)))
  refused : ∀ c e, fetched = .ok c → (∃ id ∈ c.architectures, registry.contains id = true) →
    resolution c = .error e → result = .error (.resolution e)
  loaded : ∀ c config, fetched = .ok c → (∃ id ∈ c.architectures, registry.contains id = true) →
    resolution c = .ok config → ∃ a, result = .ok ⟨locator, a, c, config⟩
  /-- Entry, configuration and whatever is nested in it are for the first of the architectures that
  is registered. -/
  named : ∀ m, result = .ok m → registry.AnswersFor m.checkpoint.architectures m.entry ∧
    ∀ d ∈ m.config.walk, d.architecture = m.entry.id

/-- **Loading agrees with resolution**: where the answers of the source are fixed, a load at any
time comes to what the resolution of the fetched checkpoint comes to at any other, if one of its
architectures is registered; and else, or without a checkpoint, it says what is missing. -/
theorem loads_as_resolved (hfixed : r.source.Fixed trees) (hnow : Asks trees r now)
    (hlater : Asks trees r later) (hfiles : trees files) (hfiles' : trees files')
    (fetcher : Fetcher) (locator : String) :
    LoadsAs r.registry locator (fetcher.fetch files locator) (later.resolve files')
      (now.resolveModel files fetcher locator) := by
  have hresolve : ∀ c, now.resolve files c = later.resolve files' c := by
    intro c
    rw [hnow.resolve_eq hfixed hfiles hfiles, hlater.resolve_eq hfixed hfiles hfiles']
  -- With an entry there is a resolution, and the load is made of it.
  have hload : ∀ c, fetcher.fetch files locator = .ok c →
      (∃ id ∈ c.architectures, r.registry.contains id = true) →
      ∃ a, now.resolveModel files fetcher locator =
        loadOf locator a c (later.resolve files' c) := by
    intro c hfetch hsome
    obtain ⟨id, hid, hreg⟩ := hsome
    obtain ⟨a, hanswers⟩ := Registry.exists_answersFor hid hreg
    refine ⟨a, ?_⟩
    rw [← hresolve, resolveModel_of_answersFor (hnow.registry ▸ hanswers) hfetch]
  exact {
    unfetched := fun e hfetch => by
      rw [resolveModel, hfetch]
    missing := fun c hfetch hids => by
      have hentry : now.entryOf c = .error (.resolution (.missing c)) := by
        rw [entryOf, hids]
        rfl
      rw [resolveModel, hfetch]
      simp only [identify, hentry, ResolutionError.missing]
    unregistered := fun c hfetch hids hnone => by
      rw [resolveModel, hfetch]
      simp only [identify, entryOf_of_unregistered hids (hnow.registry ▸ hnone)]
    refused := fun c e hfetch hsome he => by
      obtain ⟨a, hmodel⟩ := hload c hfetch hsome
      rw [hmodel, he, loadOf]
    loaded := fun c config hfetch hsome hconfig => by
      obtain ⟨a, hmodel⟩ := hload c hfetch hsome
      exact ⟨a, by rw [hmodel, hconfig, loadOf]⟩
    named := fun m hm => by
      rw [← hnow.registry]
      exact architecture_of_resolveModel hm }

/-- A checkpoint that declares an unknown architecture first, and the keys of two nested models. -/
def nestedCheckpoint : Checkpoint :=
  ⟨["UnknownForCausalLM", "SplitForCausalLM"], none, ConfigClass.splitObject (.int 27)⟩

/-- An unknown architecture in the first place is passed over for the entry and for the
configuration, also where the checkpoint was resolved before. -/
theorem nested_loads_as_resolved :
    let r := single none [] (.ofClasses [("SplitForCausalLM", .split)])
    let fetcher := .memory [("split", nestedCheckpoint)] true
    ∃ m, r.resolveModel .empty fetcher "split" = .ok m ∧
      (r.afterResolve .empty nestedCheckpoint).resolve .empty nestedCheckpoint = .ok m.config ∧
      m.entry.id = "SplitForCausalLM" ∧
      m.config.walk.map (·.architecture) = List.replicate 3 "SplitForCausalLM" := by
  intro r fetcher
  have hfixed : r.source.Fixed fun _ => True := ClassSource.fixed_static _
  have hasks : Asks (fun _ => True) r (r.afterResolve .empty nestedCheckpoint) :=
    asks_afterResolve trivial nestedCheckpoint
  have hloads : LoadsAs r.registry "split" (.ok nestedCheckpoint)
      ((r.afterResolve .empty nestedCheckpoint).resolve .empty)
      (r.resolveModel .empty fetcher "split") :=
    loads_as_resolved hfixed (.refl r) hasks trivial trivial fetcher "split"
  have hsome : ∃ id ∈ nestedCheckpoint.architectures, r.registry.contains id = true :=
    ⟨"SplitForCausalLM", by decide, rfl⟩
  obtain ⟨config, hconfig, hwalk⟩ : ∃ config,
      (r.afterResolve .empty nestedCheckpoint).resolve .empty nestedCheckpoint = .ok config ∧
        config.walk.length = 3 := ⟨_, rfl, rfl⟩
  obtain ⟨a, hmodel⟩ := hloads.loaded nestedCheckpoint config rfl hsome hconfig
  obtain ⟨hanswers, hnamed⟩ := hloads.named _ hmodel
  have hid : a.id = "SplitForCausalLM" := by
    have hfirst : r.registry.resolveFirst nestedCheckpoint.architectures = .ok a :=
      Registry.resolveFirst_eq_ok_iff.mpr hanswers
    obtain rfl := Except.ok.inj hfirst
    rfl
  refine ⟨_, hmodel, hconfig, hid, List.eq_replicate_iff.mpr ⟨by simpa using hwalk, ?_⟩⟩
  intro id hmem
  obtain ⟨d, hd, rfl⟩ := List.mem_map.mp hmem
  rw [hnamed d hd, hid]

end Resolver

end ModelRegistry
