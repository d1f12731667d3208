import ModelRegistry.Proofs.Architecture.Declaration
import ModelRegistry.Proofs.Report
import ModelRegistry.Proofs.Service.Setup

/-!
# ModelRegistry.Proofs.Service.Start

When a service can be started: exactly if all declarations can be registered and
each of their entries passes its own check. The registry of the service is then
frozen, and holds the declared entries. If the program stops at the adapter of an
entry there is no report at all.
-/

namespace ModelRegistry

/-! ## What an entry is checked for -/

/-- An entry passes its check: its implementation is found, the class that is chosen for it is
well-formed, and if it takes part in speculative decoding its adapter is valid. -/
structure Verifier.Passes (v : Verifier) (files : Files) (a : Architecture) : Prop where
  located : ∃ implementation, v.catalog.locate a.loader = .ok implementation
  selects : ∃ strategy c, (v.select files a).chosen = some (strategy, c) ∧
    c.value.checkWellFormed = .ok ()
  adapter : ∀ s, a.speculative = some s → s.role ≠ .none → s.adapter.validate = .ok ()

/-- The program stops when it checks the adapter that the entry takes part with. -/
def Architecture.Halts (a : Architecture) (reason : Halt) : Prop :=
  ∃ s, a.speculative = some s ∧ s.role ≠ .none ∧ s.adapter.validate = .error (.halt reason)

theorem Verifier.verifyEntry_eq_nil_iff_passes {v : Verifier} {files : Files} {a : Architecture} :
    v.verifyEntry files a = .ok [] ↔ v.Passes files a := by
  rw [verifyEntry_eq_nil_iff, checkSpeculative_eq_nil_iff]
  constructor
  · intro h
    exact ⟨h.1, h.2.1, fun s hs hrole => (h.2.2 s hs).resolve_left hrole⟩
  · intro h
    refine ⟨h.located, h.selects, fun s hs => ?_⟩
    by_cases hrole : s.role = .none
    · exact .inl hrole
    · exact .inr (h.adapter s hs hrole)

theorem Verifier.verifyEntry_eq_error_iff_halts {v : Verifier} {files : Files} {a : Architecture}
    {reason : Halt} : v.verifyEntry files a = .error reason ↔ a.Halts reason :=
  verifyEntry_eq_error_iff.trans checkSpeculative_eq_error_iff

/-- A check comes to an end unless the program stops. -/
theorem Verifier.verifyEntry_eq_ok_found_iff {v : Verifier} {files : Files} {a : Architecture} :
    v.verifyEntry files a = .ok (v.found files a) ↔ ∀ reason, ¬a.Halts reason := by
  have hhalts : ∀ reason, a.Halts reason ↔ v.verifyEntry files a = .error reason :=
    fun reason => verifyEntry_eq_error_iff_halts.symm
  simp only [hhalts, found]
  cases v.verifyEntry files a with
  | ok failures => simp [Except.toOption]
  | error reason => exact iff_of_false (fun h => by cases h) fun h => h reason rfl

namespace Setup

variable {s : Setup} {files : Files} {service : Service}

/-! ## The parts of a start -/

theorem start_succeeds_iff_verified :
    (∃ service, s.start files = .ok service) ↔
      (∃ n, s.registration.outcome = .ok n) ∧
        ∃ report, s.verifier.report files s.registration.registry.freeze = .ok report ∧
          report.isOk = true := by
  simp only [start_eq_ok_iff]
  constructor
  · rintro ⟨service, hregistered, report, hreport, hok, -⟩
    exact ⟨hregistered, report, hreport, hok⟩
  · rintro ⟨hregistered, report, hreport, hok⟩
    exact ⟨_, hregistered, report, hreport, hok, rfl⟩

theorem registration_succeeds_iff :
    (∃ n, s.registration.outcome = .ok n) ↔
      (∀ d ∈ s.declarations, d.modalities ≠ []) ∧ (s.declarations.map (·.id)).Nodup := by
  have hopen : Registry.empty.frozen = false := rfl
  have hempty : ∀ id, Registry.empty.contains id = false := fun _ => rfl
  simp only [registration, Registry.registerAll, Registry.registerFrom_eq_ok_iff hopen,
    exists_and_left, exists_eq, and_true]
  exact ⟨fun h => ⟨h.declared, h.distinct⟩, fun h => ⟨h.1, h.2, fun d _ => hempty d.id⟩⟩

theorem entries_of_registration {n : Nat} (h : s.registration.outcome = .ok n) :
    s.registration.registry.freeze.entries = s.declarations.map Declaration.entry := by
  obtain ⟨hadmits, -⟩ := (Registry.registerFrom_eq_ok_iff rfl).mp h
  obtain ⟨next, hresult, -, hentries⟩ := Registry.registerFrom_of_admits rfl hadmits 0
  rw [Registry.entries_freeze, registration, Registry.registerAll, hresult]
  exact hentries

/-- The report on declared entries is clean exactly if each of them passes. -/
theorem isOk_of_registration_iff (hstatic : s.catalog.Fixed) {n : Nat}
    (h : s.registration.outcome = .ok n) :
    (∃ report, s.verifier.report files s.registration.registry.freeze = .ok report ∧
      report.isOk = true) ↔
      ∀ d ∈ s.declarations, ∀ a, d.toEntry = .ok a → s.verifier.verifyEntry files a = .ok [] := by
  obtain ⟨hdeclared, -⟩ := registration_succeeds_iff.mp ⟨n, h⟩
  have hfixed : s.verifier.catalog.Fixed := hstatic
  rw [Verifier.exists_clean_report_iff hfixed, entries_of_registration h, List.forall_mem_map]
  constructor
  · intro hpass d hd a ha
    rw [Declaration.toEntry_of_modalities (hdeclared d hd)] at ha
    exact Except.ok.inj ha ▸ hpass d hd
  · intro hpass d hd
    exact hpass d hd _ (Declaration.toEntry_of_modalities (hdeclared d hd))

/-! ## Main theorem -/

/-- **Verification tells of every entry what its own check says**: where the catalog has fixed
answers, the report of a registry in one file tree is a traversal of the entries that lists the
failures of each as its check by itself finds them, whatever else is registered, and its counts are
the numbers of entries that pass and fail. A check finds nothing exactly if the implementation is
located, the class that is chosen is well-formed and a declared adapter is valid; it comes to no end
exactly if the program stops at that adapter. And a service starts exactly if every declaration
names a modality, their ids are distinct and the check of every declared entry finds nothing; its
registry is then frozen and holds just the declared entries, in order. -/
theorem starts_iff_entries_pass :
    (∀ (v : Verifier) (files : Files) (registry : Registry), v.catalog.Fixed →
      v.report files registry = (registry.entries.mapM (v.verifyEntry files)).map (fun found =>
        ⟨registry.entries.length, found.flatten⟩) ∧
      ((∃ report, v.report files registry = .ok report) ↔
        ∀ a ∈ registry.entries, ∀ reason, ¬a.Halts reason) ∧
      ∀ report, v.report files registry = .ok report → v.Reports files registry report) ∧
    (∀ (v : Verifier) (files : Files) (a : Architecture),
      (v.verifyEntry files a = .ok [] ↔ v.Passes files a) ∧
      ∀ reason, v.verifyEntry files a = .error reason ↔ a.Halts reason) ∧
    ∀ (s : Setup) (files : Files), s.catalog.Fixed →
      ((∃ service, s.start files = .ok service) ↔
        (∀ d ∈ s.declarations, d.modalities ≠ []) ∧ (s.declarations.map (·.id)).Nodup ∧
        ∀ d ∈ s.declarations, ∀ a, d.toEntry = .ok a →
          s.verifier.verifyEntry files a = .ok []) ∧
      ∀ service, s.start files = .ok service →
        service.registry.frozen = true ∧
        s.declarations.map Declaration.toEntry = service.registry.entries.map .ok := by
  refine ⟨?_, fun v files a => ⟨Verifier.verifyEntry_eq_nil_iff_passes, fun reason =>
    Verifier.verifyEntry_eq_error_iff_halts⟩, ?_⟩
  · intro v files registry hstatic
    refine ⟨Verifier.report_eq_mapM hstatic files registry, ?_,
      fun report => Verifier.reports_of_report hstatic⟩
    rw [Verifier.exists_report_iff hstatic]
    exact forall₂_congr fun a _ => Verifier.verifyEntry_eq_ok_found_iff
  intro s files hstatic
  constructor
  · rw [start_succeeds_iff_verified, ← and_assoc, ← registration_succeeds_iff]
    constructor
    · rintro ⟨⟨n, houtcome⟩, hok⟩
      exact ⟨⟨n, houtcome⟩, (isOk_of_registration_iff hstatic houtcome).mp hok⟩
    · rintro ⟨⟨n, houtcome⟩, hpass⟩
      exact ⟨⟨n, houtcome⟩, (isOk_of_registration_iff hstatic houtcome).mpr hpass⟩
  · intro service hstart
    obtain ⟨⟨n, houtcome⟩, report, -, -, rfl⟩ := start_eq_ok_iff.mp hstart
    obtain ⟨hdeclared, -⟩ := registration_succeeds_iff.mp ⟨n, houtcome⟩
    have hentries : (s.made files report).registry.entries =
        s.declarations.map Declaration.entry := entries_of_registration houtcome
    rw [hentries, List.map_map]
    refine ⟨Registry.frozen_freeze _, List.map_congr_left fun d hd => ?_⟩
    exact Declaration.toEntry_of_modalities (hdeclared d hd)

/-- An entry that passes and one that fails in three ways, without an implementation, a class and
a valid adapter. -/
def plainAndBroken : Setup where
  declarations := [
    ⟨"PlainForCausalLM", [.text], Fixture.reference "Plain", none, none⟩,
    ⟨"BrokenForCausalLM", [.text], Fixture.reference "Broken", none,
      some ⟨.draftCapable, 10, .none, [.chunkMean 3], 3, .none⟩⟩]
  mapping := .ofList [("PlainForCausalLM", .empty "PlainConfig")]
  source := .empty
  catalog := Fixture.catalog ["Plain"]
  fetcher := .memory [] false

/-- The setup with its first declaration alone. -/
def plain : Setup := { plainAndBroken with declarations := plainAndBroken.declarations.take 1 }

theorem broken_counts_once :
    (∃ report, plainAndBroken.verifier.report .empty plainAndBroken.registration.registry.freeze =
        .ok report ∧ report.failures.length = 3 ∧
      report.failedArchitectures = ["BrokenForCausalLM"] ∧ report.passed = 1) ∧
    (¬ ∃ service, plainAndBroken.start .empty = .ok service) ∧
      ∃ service, plain.start .empty = .ok service ∧ service.registry.frozen = true := by
  obtain ⟨hreports, -, hstarts⟩ := starts_iff_entries_pass
  refine ⟨?_, ?_, ?_⟩
  · obtain ⟨-, -, hreport⟩ := hreports plainAndBroken.verifier .empty
      plainAndBroken.registration.registry.freeze (Catalog.fixed_ofTable _)
    have hreports := hreport _ rfl
    refine ⟨_, rfl, ?_, ?_, ?_⟩
    · rw [hreports.failures]
      rfl
    · rw [hreports.failed]
      rfl
    · rw [hreports.passed]
      rfl
  · rw [(hstarts plainAndBroken .empty (Catalog.fixed_ofTable _)).1]
    rintro ⟨-, -, hpass⟩
    have hbroken := hpass _ (List.mem_cons_of_mem _ List.mem_cons_self) _ rfl
    cases hbroken
  · obtain ⟨hsucceeds, hregistry⟩ := hstarts plain .empty (Catalog.fixed_ofTable _)
    obtain ⟨service, hstart⟩ := hsucceeds.mpr ⟨by decide, by decide, by
      intro d hd a ha
      obtain rfl := List.mem_singleton.mp hd
      obtain rfl := Except.ok.inj ha
      rfl⟩
    exact ⟨service, hstart, (hregistry service hstart).1⟩

end Setup

end ModelRegistry
