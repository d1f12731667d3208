import ModelRegistry.Fixture
import ModelRegistry.Proofs.Config.Class
import ModelRegistry.Proofs.Config.Satisfiability
import ModelRegistry.Proofs.Service.Runs
import ModelRegistry.Proofs.Verification

/-!
# ModelRegistry.Proofs.Service.Setup

What a service that was started can be relied on for. Verification selects a
class for every registered architecture, from the model type declared with it
alone; resolution selects one for a checkpoint, which may declare another model
type and several architectures. The two selections are the same, for every
checkpoint with a registered architecture and as long as the service runs.

That a class was verified does not mean that some checkpoint fits it. It may refuse
them all, and does so exactly if its demands clash (`refuses_checkpoints_iff_clash`).
-/

namespace ModelRegistry

/-! ## Started services -/

/-- The verifier of a setup. -/
def Setup.verifier (s : Setup) : Verifier :=
  ⟨s.catalog, s.mapping, s.source⟩

/-- What a service has from the setup that it was started from. -/
structure Setup.Starts (s : Setup) (files : Files) (service : Service) : Prop where
  verified : s.verifier.report files service.registry = .ok service.report
  clean : service.report.isOk = true
  mapping : service.resolver.mapping = s.mapping
  source : service.resolver.source =
    (s.verifier.afterEntries files service.registry.entries).source
  catalog : service.catalog = (s.verifier.afterEntries files service.registry.entries).catalog
  fetcher : service.fetcher = s.fetcher
  loads : service.loads = .empty

/-- What registering the declarations comes to. -/
def Setup.registration (s : Setup) : Registry.Registration :=
  Registry.empty.registerAll s.declarations

/-- The service that a start with this report makes. -/
def Setup.made (s : Setup) (files : Files) (report : Report) : Service :=
  let registry := s.registration.registry.freeze
  let after := s.verifier.afterEntries files registry.entries
  ⟨⟨registry, after.mapping, after.source⟩, after.catalog, s.fetcher, .empty, .empty, 0, report⟩

/-- A start registers, freezes and verifies; it fails if one of these does. -/
theorem Setup.start_eq_ok_iff {s : Setup} {files : Files} {service : Service} :
    s.start files = .ok service ↔ (∃ n, s.registration.outcome = .ok n) ∧
      ∃ report, s.verifier.report files s.registration.registry.freeze = .ok report ∧
        report.isOk = true ∧ s.made files report = service := by
  constructor
  · intro h
    rw [start] at h
    split at h
    · cases h
    · next n houtcome =>
        simp only at h
        split at h
        · cases h
        · next report hreport =>
            split at h
            · next hok => exact ⟨⟨n, houtcome⟩, report, hreport, hok, Except.ok.inj h⟩
            · cases h
  · rintro ⟨⟨n, houtcome⟩, report, hreport, hok, rfl⟩
    rw [verifier] at hreport
    rw [registration] at houtcome hreport
    simp only [start, houtcome, hreport, if_pos hok]
    rfl

theorem Setup.starts_of_start {s : Setup} {files : Files} {service : Service}
    (h : s.start files = .ok service) : s.Starts files service := by
  obtain ⟨-, report, hreport, hok, rfl⟩ := start_eq_ok_iff.mp h
  exact ⟨hreport, hok, Verifier.mapping_afterEntries _, rfl, rfl, rfl, rfl⟩

/-- What verification selected for an entry of the registry when its turn came; the class that it
chose is well-formed. -/
structure Setup.Verified (s : Setup) (files : Files) (registry : Registry) (a : Architecture)
    (strategy : Strategy) (chosen : Shared ConfigClass) (attempts : List Attempt) : Prop where
  turn : ∃ before after, registry.entries = before ++ a :: after ∧
    (s.verifier.afterEntries files before).select files a = ⟨some (strategy, chosen), attempts⟩
  wellFormed : chosen.value.checkWellFormed = .ok ()

/-- A request is told what came of the resolution of its checkpoint. -/
def Preparation.Tells (a : Architecture) (resolution : Except ResolutionError Descriptor) :
    Preparation → Prop
  | .ok m => m.value.resolved.entry = a ∧ resolution = .ok m.value.resolved.config
  | .error e => ∃ fault, e = .resolution fault ∧ resolution = .error fault

theorem Service.tells_outcomeOf {catalog : Catalog} {a : Architecture}
    {implementation : Implementation} (h : catalog.locate a.loader = .ok implementation)
    (flight : Nat) (locator : String) (c : Checkpoint)
    (resolution : Except ResolutionError Descriptor) :
    Preparation.Tells a resolution
      (outcomeOf catalog flight (Resolver.loadOf locator a c resolution)) := by
  cases resolution with
  | error fault => exact ⟨fault, rfl, rfl⟩
  | ok config =>
      rw [Resolver.loadOf, outcomeOf, h]
      exact ⟨rfl, rfl⟩

namespace Setup

variable {s : Setup} {trees : Files → Prop} {files : Files} {service : Service}
  {c : Checkpoint} {a : Architecture} {id : String} {attempts : List Attempt}

theorem Starts.catalog_fixed (h : s.Starts files service) (hstatic : s.catalog.Fixed) :
    service.catalog.Fixed := by
  rw [h.catalog, Verifier.catalog_afterEntries hstatic]
  exact hstatic

/-- Every registered architecture was verified. -/
theorem Starts.exists_verified (h : s.Starts files service)
    (ha : service.registry.find? a.id = some a) :
    ∃ strategy chosen attempts,
      s.Verified files service.registry a strategy chosen attempts := by
  obtain ⟨before, after, hsplit⟩ := Registry.entries_of_find? ha
  obtain ⟨-, ⟨strategy, chosen, hchosen, hwell⟩, -⟩ :=
    Verifier.verifyEntry_eq_nil_iff.mp (Verifier.verifyEntry_of_isOk h.verified h.clean hsplit)
  let selection := (s.verifier.afterEntries files before).select files a
  have hselect : selection = ⟨some (strategy, chosen), selection.attempts⟩ := by
    rw [← hchosen]
  exact ⟨strategy, chosen, selection.attempts, ⟨before, after, hsplit, hselect⟩, hwell⟩

/-- A resolver whose source still says what it told the verifier selects what the verifier did. -/
theorem Starts.selection?_of_settled (h : s.Starts files service) {before : List Architecture}
    {pick : Strategy × Shared ConfigClass}
    (hselect : (s.verifier.afterEntries files before).select files a = ⟨some pick, attempts⟩)
    {resolver : Resolver} (hregistry : resolver.registry = service.registry)
    (hmapping : resolver.mapping = service.resolver.mapping)
    (hanswers : service.registry.AnswersFor c.architectures a)
    (hsettled : s.mapping.contains a.id = false → resolver.source.Settled trees a.id
      ((s.verifier.afterEntries files before).source.answer files a.id))
    {now : Files} (hnow : trees now) :
    resolver.selection? now c = some (a.id, ⟨some pick, attempts⟩) := by
  have hturn : (s.verifier.afterEntries files before).mapping = s.mapping :=
    Verifier.mapping_afterEntries before
  have hsame : resolver.mapping = s.mapping := hmapping.trans h.mapping
  have hanswers' : resolver.registry.AnswersFor c.architectures a := by
    rw [hregistry]
    exact hanswers
  refine Resolver.selection?_of_settled hanswers' (hsame ▸ hsettled) hnow ?_ rfl
  rw [hsame, ← hturn, ← hselect]
  rfl

/-- Every registered architecture has passed, and what was selected for it is what every later
resolution of its checkpoints selects. -/
theorem Starts.selects (h : s.Starts files service) (hfixed : s.source.Fixed trees)
    (hstatic : s.catalog.Fixed) (hfiles : trees files)
    (ha : service.registry.find? a.id = some a) :
    ∃ strategy chosen attempts, s.Verified files service.registry a strategy chosen attempts ∧
      (∃ implementation, service.catalog.locate a.loader = .ok implementation) ∧
      ∀ (c : Checkpoint) (resolver : Resolver) (now : Files),
        service.registry.AnswersFor c.architectures a →
        Resolver.Continues trees service.resolver resolver → trees now →
        resolver.selection? now c = some (a.id, ⟨some (strategy, chosen), attempts⟩) := by
  obtain ⟨strategy, chosen, attempts, hverified⟩ := h.exists_verified ha
  obtain ⟨before, after, hsplit, hselect⟩ := hverified.turn
  obtain ⟨⟨implementation, hlocate⟩, -⟩ :=
    Verifier.verifyEntry_eq_nil_iff.mp (Verifier.verifyEntry_of_isOk h.verified h.clean hsplit)
  refine ⟨strategy, chosen, attempts, hverified, ⟨implementation, ?_⟩, ?_⟩
  · rw [h.catalog, Verifier.catalog_afterEntries hstatic]
    rw [Verifier.catalog_afterEntries hstatic] at hlocate
    exact hlocate
  · intro c resolver now hanswers hcontinues hnow
    refine h.selection?_of_settled hselect hcontinues.registry hcontinues.mapping hanswers ?_ hnow
    intro hunmapped
    apply hcontinues.settled
    rw [h.source, hsplit]
    exact Verifier.settled_afterEntries hfixed hfiles hunmapped

/-- **The verified class is the resolved class**: let a service be started from a setup whose
source and catalog have fixed answers. For a checkpoint with a registered
architecture, whatever else it declares, verification has selected a well-formed class for the
entry of the first one, and resolution selects just that, with the same tiers asked before it,
whenever the service comes to it. So the checkpoint is read against that class alone, and a
request for a model with this checkpoint is told what came of that: neither its architecture
nor its implementation is ever missing. This holds of requests that are made now, and of those
that wait while others go on, if the checkpoint does not change under them. -/
theorem resolves_as_verified (hfixed : s.source.Fixed trees)
    (hstatic : s.catalog.Fixed) (hfiles : trees files)
    (hstart : s.start files = .ok service) (hid : id ∈ c.architectures)
    (hreg : service.registry.contains id = true) :
    ∃ a strategy chosen attempts,
      service.registry.AnswersFor c.architectures a ∧
      s.Verified files service.registry a strategy chosen attempts ∧
      ∀ later now, service.Reaches trees later → trees now →
        later.resolver.selection? now c = some (a.id, ⟨some (strategy, chosen), attempts⟩) ∧
        (later.resolver.resolve now c =
          match Config.instantiate ⟨a.id, strategy⟩ none c.fields chosen.value with
          | .ok config => .ok config
          | .error v => .error ⟨a.id, .invalidConfig chosen.value.name v,
              attempts ++ [⟨strategy, .rejected chosen.value.name v⟩]⟩) ∧
        (∀ locator, later.fetcher.fetch now locator = .ok c →
          ((Service.prepare now locator).run later).1.Tells a (later.resolver.resolve now c)) ∧
        ∀ i flight locator, later.loads.Waits i flight locator →
          (∀ files, trees files → later.fetcher.fetch files locator = .ok c) →
          ((Service.complete now i flight locator).run later).1.Tells a
            (later.resolver.resolve now c) := by
  have hstarts := starts_of_start hstart
  obtain ⟨a, hanswers⟩ := Registry.exists_answersFor hid hreg
  obtain ⟨strategy, chosen, attempts, hverified, ⟨implementation, hlocate⟩, hselects⟩ :=
    hstarts.selects hfixed hstatic hfiles hanswers.found
  refine ⟨a, strategy, chosen, attempts, hanswers, hverified, ?_⟩
  intro later now hreaches hnow
  have hfollows := hreaches.follows (hstarts.catalog_fixed hstatic) hstarts.loads
  have hresolve : later.resolver.resolve now c =
      Resolver.instantiate a.id ⟨some (strategy, chosen), attempts⟩ c :=
    Resolver.resolve_of_selection? (hselects c _ now hanswers hfollows.resolver hnow)
  -- Whoever loads the checkpoint, and when, comes to the same.
  have hload : ∀ (resolver : Resolver) (files : Files) (locator : String),
      Resolver.Continues trees service.resolver resolver → trees files →
      later.fetcher.fetch files locator = .ok c →
      resolver.resolveModel files later.fetcher locator =
        Resolver.loadOf locator a c (later.resolver.resolve now c) := by
    intro resolver files locator hcontinues hfiles hfetch
    have hanswers' : resolver.registry.AnswersFor c.architectures a := by
      rw [hcontinues.registry]
      exact hanswers
    have hselection := hselects c resolver files hanswers hcontinues hfiles
    rw [hresolve, Resolver.resolveModel_of_selection? hanswers' hselection hfetch]
  have htells := Service.tells_outcomeOf (hfollows.catalog ▸ hlocate)
  refine ⟨hselects c later.resolver now hanswers hfollows.resolver hnow, ?_, ?_, ?_⟩
  · exact hresolve.trans (Resolver.instantiate_of_chosen ..)
  · intro locator hfetch
    rw [Service.prepare_of_slotsOpen hfollows.slotsOpen,
      hload _ now locator hfollows.resolver hnow hfetch]
    exact htells _ locator c _
  · intro i flight locator hwaits hfetch
    have hresult : later.resultOf now flight locator =
        Resolver.loadOf locator a c (later.resolver.resolve now c) := by
      refine hfollows.resultOf_eq hwaits hnow ?_
      intro resolver files hcontinues hfiles
      rw [← hfollows.fetcher]
      exact hload resolver files locator hcontinues hfiles (hfetch files hfiles)
    rw [Service.complete_run, hresult]
    exact htells flight locator c _

/-- One architecture, without a class of its own but for the model type declared with it. -/
def splitting (c : Checkpoint) : Setup where
  declarations := [⟨"SplitForCausalLM", [.text], Fixture.reference "Split", some "split", none⟩]
  mapping := .ofList [("Other", (ConfigClass.empty "OtherConfig").withModelType "other"),
    ("Split", .split)]
  source := .empty
  catalog := Fixture.catalog ["Split"]
  fetcher := .memory [("split", c)] true

/-- A checkpoint that declares another architecture first and a model type of another class. -/
def splitCheckpoint : Checkpoint :=
  ⟨["UnknownForCausalLM", "SplitForCausalLM"], some "other", ConfigClass.splitObject (.int 2)⟩

theorem splitting_resolves_as_verified :
    ∃ service a attempts, (splitting splitCheckpoint).start .empty = .ok service ∧
      a.id = "SplitForCausalLM" ∧
      (splitting splitCheckpoint).Verified .empty service.registry a .modelTypeAlias ⟨1, .split⟩
        attempts ∧
      ((Service.prepare .empty "split").run service).1.Tells a
        (service.resolver.resolve .empty splitCheckpoint) := by
  obtain ⟨service, hstart, hreg, hfetch, hselects⟩ : ∃ service,
      (splitting splitCheckpoint).start .empty = .ok service ∧
      service.registry.contains "SplitForCausalLM" = true ∧
      service.fetcher.fetch .empty "split" = .ok splitCheckpoint ∧
      (service.resolver.selection? .empty splitCheckpoint).map
          (fun selected => (selected.1, selected.2.chosen)) =
        some ("SplitForCausalLM", some (.modelTypeAlias, ⟨1, .split⟩)) :=
    ⟨_, rfl, rfl, rfl, rfl⟩
  have hfixed : (splitting splitCheckpoint).source.Fixed fun _ => True := ClassSource.fixed_static _
  have hlisted : "SplitForCausalLM" ∈ splitCheckpoint.architectures := by decide
  obtain ⟨a, strategy, chosen, attempts, -, hverified, hlater⟩ :=
    resolves_as_verified hfixed (Catalog.fixed_ofTable _) trivial hstart hlisted hreg
  obtain ⟨hselection, -, hprepare, -⟩ := hlater service .empty .start trivial
  rw [hselection] at hselects
  simp only [Option.map_some, Option.some.injEq, Prod.mk.injEq] at hselects
  obtain ⟨hid, rfl, rfl⟩ := hselects
  exact ⟨service, a, attempts, hstart, hid, hverified, hprepare "split" hfetch⟩

/-! ## Architectures without a checkpoint -/

/-- Verification checks the names of one class at a time, so that it lets pass a class that refuses
every object. A registered architecture has such a class exactly if the demands of the verified
class clash, and then, and only then, all checkpoints of the architecture are refused: those that
can be built, that is, with any object for their fields. -/
theorem refuses_checkpoints_iff_clash (hfixed : s.source.Fixed trees)
    (hstatic : s.catalog.Fixed) (hfiles : trees files)
    (hstart : s.start files = .ok service) (ha : service.registry.find? a.id = some a) :
    ∃ strategy chosen attempts, s.Verified files service.registry a strategy chosen attempts ∧
      ((∀ raw, ∃ v, Config.instantiate ⟨a.id, strategy⟩ none raw chosen.value = .error v) ↔
        Config.Clash chosen.value.demands) ∧
      ∀ later now, service.Reaches trees later → trees now →
        ((∀ c : Checkpoint, service.registry.AnswersFor c.architectures a →
          ∃ e, later.resolver.resolve now c = .error e) ↔
        Config.Clash chosen.value.demands) := by
  have hstarts := starts_of_start hstart
  obtain ⟨strategy, chosen, attempts, hverified, -, hselects⟩ :=
    hstarts.selects hfixed hstatic hfiles ha
  have hrefuses := Config.refuses_all_iff_clash hverified.wellFormed ⟨a.id, strategy⟩ none
  refine ⟨strategy, chosen, attempts, hverified, hrefuses, ?_⟩
  intro later now hreaches hnow
  have hfollows := hreaches.follows (hstarts.catalog_fixed hstatic) hstarts.loads
  have hresolve : ∀ c : Checkpoint, service.registry.AnswersFor c.architectures a →
      ((∃ e, later.resolver.resolve now c = .error e) ↔
        ∃ v, Config.instantiate ⟨a.id, strategy⟩ none c.fields chosen.value = .error v) := by
    intro c hanswers
    rw [Resolver.resolve_of_selection? (hselects c _ now hanswers hfollows.resolver hnow),
      Resolver.instantiate_of_chosen]
    cases Config.instantiate ⟨a.id, strategy⟩ none c.fields chosen.value <;> simp
  rw [← hrefuses]
  constructor
  · intro hall raw
    -- Every object is that of a checkpoint which declares the architecture alone.
    let c : Checkpoint := ⟨[a.id], none, raw⟩
    have hanswers : service.registry.AnswersFor c.architectures a :=
      ⟨⟨[], [], rfl, by simp⟩, ha⟩
    exact (hresolve c hanswers).mp (hall c hanswers)
  · intro hall c hanswers
    exact (hresolve c hanswers).mpr (hall c.fields)

end Setup

end ModelRegistry
