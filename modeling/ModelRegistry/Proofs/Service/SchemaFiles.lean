import ModelRegistry.Proofs.Files
import ModelRegistry.Proofs.Service.Setup

/-!
# ModelRegistry.Proofs.Service.SchemaFiles

Services whose classes come from a schema directory, while its files are written
and deleted. A class that was mapped when the service started stays mapped, and one
that was read is remembered; so an architecture that was verified by the first or
the second tier keeps its class whatever happens to the files. For one that was
verified by the last tier the directory had no class to remember. It keeps its class
as long as no schema file is published for it; the first that is takes over, though
nobody has verified it.
-/

namespace ModelRegistry

/-! ## Schema files -/

namespace SchemaDirectory

variable {trees : Files → Prop} {files : Files} {id : String} {d e : SchemaDirectory}

/-- The architecture has a schema file that holds this class. -/
structure Publishes (d : SchemaDirectory) (files : Files) (id : String) (c : ConfigClass) :
    Prop where
  word : Text.isWord id.toList = true
  loads : d.load files id = .ok (some c)

theorem load_of_find {text : String}
    (h : files.find (d.filePath id) = .ok (.file text.toUTF8)) :
    d.load files id = (readClass (d.filePath id) text).map some := by
  have hfile : files.isFile (d.filePath id) = true := by rw [Files.isFile, h]
  simp only [load, hfile, Files.read_of_find h, Bool.not_true, Bool.false_eq_true, if_false]
  cases readClass (d.filePath id) text <;> rfl

/-- A later state of the directory, in which it remembers no class for the architecture. -/
structure Unread (id : String) (d e : SchemaDirectory) : Prop where
  path : e.path = d.path
  uncached : Text.isWord id.toList = true → e.cache.lookup id = none

/-- A directory that answered no class remembers none. -/
theorem unread_of_answer (hpath : e.path = d.path)
    (h : ∀ c, e.answer files id ≠ .ok (some c)) : Unread id d e := by
  refine ⟨hpath, ?_⟩
  intro hword
  cases hcached : e.cache.lookup id with
  | none => rfl
  | some c => exact absurd (answer_of_cached hword hcached) (h c)

namespace Unread

/-- A directory that remembers no class answers what is published now. -/
theorem answer_eq_some_iff (h : Unread id d e) {c : Shared ConfigClass} :
    e.answer files id = .ok (some c) ↔ d.Publishes files id c.value ∧ c.serial = e.loaded := by
  constructor
  · intro hanswer
    have hword := isWord_of_answer hanswer
    rw [answer_eq_some_iff_of_uncached hword (h.uncached hword), load_eq_of_path h.path] at hanswer
    exact ⟨⟨hword, hanswer.1⟩, hanswer.2⟩
  · intro ⟨hpublished, hserial⟩
    rw [answer_eq_some_iff_of_uncached hpublished.word (h.uncached hpublished.word),
      load_eq_of_path h.path]
    exact ⟨hpublished.loads, hserial⟩

/-- It stays so as long as nothing is published for the architecture. -/
theorem afterLookup (h : Unread id d e) (hnone : ∀ c, ¬ d.Publishes files id c)
    (other : String) : Unread id d (e.afterLookup files other) := by
  refine ⟨path_afterLookup.trans h.path, ?_⟩
  intro hword
  by_cases hid : id = other
  · subst hid
    rw [afterLookup_eq_self, h.uncached hword]
    intro c hc
    exact absurd (h.answer_eq_some_iff.mp hc).1 (hnone c.value)
  · rw [cached_afterLookup_of_ne hid, h.uncached hword]

end Unread

end SchemaDirectory

namespace ClassSource

/-- A schema directory with this path. -/
def ReadsFrom (path : String) (s : ClassSource) : Prop :=
  ∃ t, s = .directory t ∧ t.path = path

/-- A later state of a schema directory, in which it remembers no class for the architecture. -/
def Unread (id : String) (d : SchemaDirectory) (s : ClassSource) : Prop :=
  ∃ t, s = .directory t ∧ SchemaDirectory.Unread id d t

variable {path id : String} {d : SchemaDirectory} {s : ClassSource} {files : Files}

theorem ReadsFrom.afterLookup (h : s.ReadsFrom path) (other : String) :
    (s.afterLookup files other).ReadsFrom path := by
  obtain ⟨t, rfl, ht⟩ := h
  exact ⟨_, rfl, SchemaDirectory.path_afterLookup.trans ht⟩

theorem Unread.afterLookup (h : s.Unread id d) (hnone : ∀ c, ¬ d.Publishes files id c)
    (other : String) : (s.afterLookup files other).Unread id d := by
  obtain ⟨t, rfl, ht⟩ := h
  exact ⟨_, rfl, ht.afterLookup hnone other⟩

end ClassSource

/-! ## Started services -/

namespace Setup

variable {s : Setup} {files now : Files} {trees : Files → Prop} {service later : Service}
  {d : SchemaDirectory} {a : Architecture} {c : Checkpoint} {strategy : Strategy}
  {chosen : Shared ConfigClass} {attempts : List Attempt}

/-- What the first two tiers told the verifier they tell whoever resolves later. -/
theorem Verified.selection?_of_ne_alias (h : s.Starts files service)
    (hverified : s.Verified files service.registry a strategy chosen attempts)
    (htier : strategy ≠ .modelTypeAlias) (hreaches : service.Reaches trees later)
    (hanswers : service.registry.AnswersFor c.architectures a) :
    later.resolver.selection? now c = some (a.id, ⟨some (strategy, chosen), attempts⟩) := by
  obtain ⟨before, after, hsplit, hselect⟩ := hverified.turn
  let turn := s.verifier.afterEntries files before
  have hturn : turn.mapping = s.mapping := Verifier.mapping_afterEntries before
  have hasks := hreaches.asks
  have hsettled : s.mapping.contains a.id = false →
      later.resolver.source.Settled (fun _ => True) a.id (turn.source.answer files a.id) := by
    intro hunmapped
    have hchosen : (turn.select files a).chosen = some (strategy, chosen) := by rw [hselect]
    rcases ClassMapping.chosen_eq_some_iff.mp hchosen with
      ⟨-, hget⟩ | ⟨-, -, hsource⟩ | ⟨htier', -⟩
    · rw [← hturn, ClassMapping.contains, hget] at hunmapped
      cases hunmapped
    · -- A class that was read is remembered, whatever becomes of its file.
      rw [hsource]
      refine hasks.kept _ ?_ (fun s tree other _ hs => hs.afterLookup trivial other)
      rw [h.source, hsplit]
      exact Verifier.source_after_turn hunmapped (ClassSource.settled_of_class hsource)
        (fun s id hs => hs.afterLookup trivial id)
    · exact absurd htier' htier
  exact h.selection?_of_settled hselect hasks.registry hasks.mapping hanswers hsettled trivial

/-- The last tier verifies an architecture that is not mapped and has no class in the source, by
the model type declared with it. -/
theorem Verified.alias (hverified : s.Verified files service.registry a .modelTypeAlias chosen
      attempts) :
    s.mapping.get? a.id = none ∧ ∃ m, a.modelType = some m ∧ s.mapping.alias? m = some chosen := by
  obtain ⟨before, after, hsplit, hselect⟩ := hverified.turn
  let turn := s.verifier.afterEntries files before
  have hturn : turn.mapping = s.mapping := Verifier.mapping_afterEntries before
  have hchosen : (turn.select files a).chosen = some (.modelTypeAlias, chosen) := by rw [hselect]
  obtain ⟨hget, -, halias⟩ := ClassMapping.chosen_eq_modelTypeAlias_iff.mp hchosen
  rw [hturn] at hget halias
  exact ⟨hget, halias⟩

/-- For an architecture that was verified by the last tier the directory remembers no class, as
long as none is published. -/
theorem Verified.unread (h : s.Starts files service) (hsource : s.source = .directory d)
    (hverified : s.Verified files service.registry a .modelTypeAlias chosen attempts)
    (hreaches : service.Reaches trees later)
    (hnone : ∀ tree, trees tree → ∀ k, ¬ d.Publishes tree a.id k) :
    later.resolver.source.Unread a.id d := by
  obtain ⟨before, after, hsplit, hselect⟩ := hverified.turn
  let turn := s.verifier.afterEntries files before
  have hreads : turn.source.ReadsFrom d.path :=
    Verifier.source_afterEntries ⟨d, hsource, rfl⟩ (fun s id hs => hs.afterLookup id) before
  have hchosen : (turn.select files a).chosen = some (.modelTypeAlias, chosen) := by rw [hselect]
  obtain ⟨-, hno, -⟩ := ClassMapping.chosen_eq_modelTypeAlias_iff.mp hchosen
  -- The verifier was told of no class, so there was none to remember, and none published.
  obtain ⟨t, ht, hpath⟩ := hreads
  rw [ht] at hno
  have hunread : SchemaDirectory.Unread a.id d t := SchemaDirectory.unread_of_answer hpath hno
  have hfiles : ∀ k, ¬ d.Publishes files a.id k :=
    fun k hk => hno ⟨t.loaded, k⟩ (hunread.answer_eq_some_iff.mpr ⟨hk, rfl⟩)
  have hturn : (turn.source.afterLookup files a.id).Unread a.id d :=
    ClassSource.Unread.afterLookup ⟨t, ht, hunread⟩ hfiles a.id
  have hunmapped : s.mapping.contains a.id = false :=
    ClassMapping.contains_of_get?_eq_none hverified.alias.1
  have hservice : service.resolver.source.Unread a.id d := by
    rw [h.source, hsplit]
    exact Verifier.source_after_turn hunmapped hturn (fun s id hs => hs.afterLookup hfiles id)
  exact hreaches.asks.kept _ hservice
    (fun s tree other htree hs => hs.afterLookup (hnone tree htree) other)

/-- **The verified class stays in force**, as far as schema files let it: let a service be started
from a setup with a schema directory. What was selected for a registered architecture is selected
for every checkpoint of it later, whatever is written or deleted in between, if it was chosen by the
explicit mapping or read from a schema file. If it was chosen by model type, and nothing was
published for the architecture whenever the service was at work, then it is selected while nothing
is published now; otherwise the class that is published takes over. -/
theorem verified_class_stays (hsource : s.source = .directory d)
    (hstart : s.start files = .ok service) (ha : service.registry.find? a.id = some a) :
    ∃ strategy chosen attempts, s.Verified files service.registry a strategy chosen attempts ∧
      ∀ (trees : Files → Prop) (later : Service) (now : Files) (c : Checkpoint),
        service.Reaches trees later → service.registry.AnswersFor c.architectures a →
        (strategy = .modelTypeAlias → ∀ tree, trees tree → ∀ k, ¬ d.Publishes tree a.id k) →
        ∃ selection, later.resolver.selection? now c = some (a.id, selection) ∧
          later.resolver.resolve now c = Resolver.instantiate a.id selection c ∧
          ((strategy = .modelTypeAlias → ∀ k, ¬ d.Publishes now a.id k) →
            selection.chosen = some (strategy, chosen)) ∧
          ∀ k, strategy = .modelTypeAlias → d.Publishes now a.id k →
            ∃ serial, selection.chosen = some (.autoDetect, ⟨serial, k⟩) := by
  have hstarts := starts_of_start hstart
  obtain ⟨strategy, chosen, attempts, hverified⟩ := hstarts.exists_verified ha
  refine ⟨strategy, chosen, attempts, hverified, ?_⟩
  intro trees later now c hreaches hanswers hnone
  by_cases htier : strategy = .modelTypeAlias
  · subst htier
    have hmapping : later.resolver.mapping = s.mapping :=
      hreaches.asks.mapping.trans hstarts.mapping
    have hanswers' : later.resolver.registry.AnswersFor c.architectures a := by
      rw [hreaches.asks.registry]
      exact hanswers
    obtain ⟨e, he, hunread⟩ := hverified.unread hstarts hsource hreaches (hnone rfl)
    obtain ⟨hget, m, hm, halias⟩ := hverified.alias
    have hselection := Resolver.selection?_of_answersFor hanswers' now
    rw [hmapping, he, hm] at hselection
    refine ⟨_, hselection, Resolver.resolve_of_selection? hselection, ?_, ?_⟩
    · intro hnothing
      refine ClassMapping.chosen_eq_modelTypeAlias_iff.mpr ⟨hget, ?_, m, rfl, halias⟩
      intro k hk
      exact hnothing rfl k.value (hunread.answer_eq_some_iff.mp hk).1
    · intro k _ hk
      refine ⟨e.loaded, ClassMapping.chosen_eq_some_iff.mpr (.inr (.inl ⟨rfl, hget, ?_⟩))⟩
      exact hunread.answer_eq_some_iff.mpr ⟨hk, rfl⟩
  · have hselection : later.resolver.selection? now c =
        some (a.id, ⟨some (strategy, chosen), attempts⟩) :=
      hverified.selection?_of_ne_alias hstarts htier hreaches hanswers
    exact ⟨_, hselection, Resolver.resolve_of_selection? hselection, fun _ => rfl,
      fun k hk => absurd hk htier⟩

/-- The class of an architecture that has nothing but its model type. -/
def lateClass : ConfigClass := (ConfigClass.empty "LateConfig").withModelType "late"

/-- One architecture, with a class for its model type and a schema directory. -/
def late : Setup where
  declarations := [⟨"LateForCausalLM", [.text], Fixture.reference "Late", some "late", none⟩]
  mapping := .ofList [("Other", lateClass)]
  source := .directory (.atPath "schemas")
  catalog := Fixture.catalog ["Late"]
  fetcher := .memory [] false

/-- A checkpoint of that architecture. -/
def lateCheckpoint : Checkpoint := .ofArchitectures ["LateForCausalLM"]

/-- The text of a schema file that publishes a class without fields. -/
def schemaText : String := "\x7b\"name\": \"NewConfig\"\x7d"

theorem late_publishes_nothing (k : ConfigClass) :
    ¬ (SchemaDirectory.atPath "schemas").Publishes .empty "LateForCausalLM" k := by
  intro h
  have hload : (SchemaDirectory.atPath "schemas").load .empty "LateForCausalLM" = .ok none := rfl
  cases hload.symm.trans h.loads

/-- While the directory stays empty, the second resolution selects the class that was verified. -/
theorem late_keeps_its_class :
    ∃ service selection, late.start .empty = .ok service ∧
      (service.resolver.afterResolve .empty lateCheckpoint).selection? .empty lateCheckpoint =
        some ("LateForCausalLM", selection) ∧
      selection.chosen = some (.modelTypeAlias, ⟨0, lateClass⟩) := by
  obtain ⟨service, a, hstart, ha, hid, hfirst, hempty⟩ : ∃ service a,
      late.start .empty = .ok service ∧ service.registry.find? a.id = some a ∧
      a.id = "LateForCausalLM" ∧
      service.registry.resolveFirst lateCheckpoint.architectures = .ok a ∧
      (service.resolver.selection? .empty lateCheckpoint).map (·.2.chosen) =
        some (some (.modelTypeAlias, ⟨0, lateClass⟩)) :=
    ⟨_, _, rfl, rfl, rfl, rfl, rfl⟩
  have hanswers := Registry.resolveFirst_eq_ok_iff.mp hfirst
  have hnone : ∀ tree, tree = .empty → ∀ k,
      ¬ (SchemaDirectory.atPath "schemas").Publishes tree a.id k := by
    rintro tree rfl k
    exact hid ▸ late_publishes_nothing k
  obtain ⟨strategy, chosen, attempts, -, hlater⟩ := verified_class_stays rfl hstart ha
  obtain ⟨first, hfirst, -, hchosen, -⟩ := hlater (· = .empty) service .empty lateCheckpoint
    .start hanswers (fun _ => hnone)
  rw [hfirst, Option.map_some, hchosen (fun _ => hnone _ rfl)] at hempty
  have hreaches : service.Reaches (· = .empty)
      { service with resolver := service.resolver.afterResolve .empty lateCheckpoint } := by
    refine .step .start (.resolve ?_ lateCheckpoint)
    rfl
  obtain ⟨second, hsecond, -, hstays, -⟩ := hlater (· = .empty) _ .empty lateCheckpoint hreaches
    hanswers (fun _ => hnone)
  refine ⟨service, second, hstart, hid ▸ hsecond, ?_⟩
  rw [hstays (fun _ => hnone _ rfl)]
  exact Option.some.inj hempty

theorem readClass_schemaText :
    ∃ k, SchemaDirectory.readClass "schemas/LateForCausalLM.json" schemaText = .ok k ∧
      k.name = "NewConfig" := by
  have hname : (SchemaDirectory.readClass "schemas/LateForCausalLM.json"
      schemaText).toOption.map (·.name) = some "NewConfig" := by
    decide +kernel
  cases hread : SchemaDirectory.readClass "schemas/LateForCausalLM.json" schemaText with
  | error fault => simp [hread, Except.toOption] at hname
  | ok k =>
      rw [hread] at hname
      exact ⟨k, rfl, Option.some.inj hname⟩

/-- A schema file that is written after the start takes over from the class that was verified. -/
theorem published_class_takes_over :
    ∃ service files a attempts k, late.start .empty = .ok service ∧
      late.Verified .empty service.registry a .modelTypeAlias ⟨0, lateClass⟩ attempts ∧
      service.registry.AnswersFor lateCheckpoint.architectures a ∧
      Files.empty.write "schemas/LateForCausalLM.json" schemaText = .ok files ∧
      (service.resolver.selection? files lateCheckpoint).map (·.2.chosen) =
        some (some (.autoDetect, k)) ∧ k.value.name = "NewConfig" := by
  obtain ⟨service, files, a, attempts, hstart, hwrite, hentries, hselect, hfirst, harchitecture,
      hget, hsource, hfind⟩ : ∃ service files a attempts, late.start .empty = .ok service ∧
        Files.empty.write "schemas/LateForCausalLM.json" schemaText = .ok files ∧
        service.registry.entries = [a] ∧
        late.verifier.select .empty a = ⟨some (.modelTypeAlias, ⟨0, lateClass⟩), attempts⟩ ∧
        service.registry.resolveFirst lateCheckpoint.architectures = .ok a ∧
        service.resolver.architecture? lateCheckpoint = some "LateForCausalLM" ∧
        service.resolver.mapping.get? "LateForCausalLM" = none ∧
        service.resolver.source = .directory (.atPath "schemas") ∧
        files.find "schemas/LateForCausalLM.json" = .ok (.file schemaText.toUTF8) :=
    ⟨_, _, _, _, rfl, rfl, rfl, rfl, rfl, rfl, rfl, rfl, rfl⟩
  obtain ⟨k, hread, hname⟩ := readClass_schemaText
  have hpath : (SchemaDirectory.atPath "schemas").filePath "LateForCausalLM" =
      "schemas/LateForCausalLM.json" := rfl
  have hload : (SchemaDirectory.atPath "schemas").load files "LateForCausalLM" = .ok (some k) := by
    rw [SchemaDirectory.load_of_find (hpath ▸ hfind), hpath, hread]
    rfl
  have hanswer : service.resolver.source.answer files "LateForCausalLM" = .ok (some ⟨0, k⟩) := by
    rw [hsource, ClassSource.answer, SchemaDirectory.answer_of_uncached rfl rfl, hload]
    rfl
  refine ⟨service, files, a, attempts, ⟨0, k⟩, hstart, ⟨⟨[], [], hentries, hselect⟩, rfl⟩,
    Registry.resolveFirst_eq_ok_iff.mp hfirst, hwrite, ?_, hname⟩
  rw [Resolver.selection?, harchitecture, Option.map_some, ClassMapping.select, hget, hanswer]
  rfl

end Setup

end ModelRegistry
