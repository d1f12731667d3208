import Mathlib.Data.List.Basic
import ModelRegistry.Proofs.Architecture.Registry
import ModelRegistry.Proofs.Config.Identity
import ModelRegistry.Proofs.Verification

/-!
# ModelRegistry.Proofs.Report

What the report of a verification says about the entries of a registry. Checking
an entry makes the source remember a class at most, which no later check sees; so
the report is a traversal of the entries, each checked by itself
(`verifyEntries_eq_mapM`), and there is one exactly if every check comes to an end.
Since no two entries have the same id, an id tells whose failure it is: an entry fails
or passes whatever is registered with it, and the counts of the report are the numbers
of entries that fail and pass.
-/

namespace ModelRegistry

/-- A traversal comes to an end if it does at every member. -/
theorem mapM_eq_ok_iff {ε α β : Type} {f : α → Except ε β} {xs : List α} {ys : List β} :
    xs.mapM f = .ok ys ↔ xs.map f = ys.map .ok := by
  induction xs generalizing ys with
  | nil => cases ys <;> simp [pure, Except.pure]
  | cons x xs ih =>
      simp only [List.mapM_cons, bind_eq_ok_iff, ih, pure, Except.pure, Except.ok.injEq]
      cases ys with
      | nil => simp
      | cons y ys => simp only [List.cons.injEq, List.map_cons]; grind

theorem ClassSource.name_afterLookup (s : ClassSource) (files : Files) (id : String) :
    (s.afterLookup files id).name = s.name := by
  cases s <;> rfl

namespace Verifier

variable {v : Verifier} {files : Files} {registry : Registry} {a : Architecture}
  {entries : List Architecture}

/-! ## Each entry by itself -/

/-- The check of a selection does not see the identity of the class. -/
theorem checkSelection_of_content {selection other : Selection}
    (h : selection.content = other.content) (sourceName : String) :
    checkSelection sourceName selection = checkSelection sourceName other := by
  obtain ⟨chosen, attempts⟩ := selection
  obtain ⟨chosen', attempts'⟩ := other
  obtain ⟨hchosen, rfl⟩ := Prod.mk.inj h
  cases chosen <;> cases chosen' <;> simp_all [checkSelection, Selection.sourceFailure?]

/-- A check that comes after others finds what it would find by itself. -/
theorem verifyEntry_afterEntry (h : v.catalog.Fixed) (b : Architecture) :
    (v.afterEntry files b).verifyEntry files a = v.verifyEntry files a := by
  have hloader : (v.afterEntry files b).checkLoader a = v.checkLoader a := by
    rw [checkLoader, afterEntry, Catalog.afterLookup_eq_self h, checkLoader]
  by_cases hmapped : v.mapping.contains b.id
  · have hsource : (v.afterEntry files b).source = v.source := if_pos hmapped
    rw [verifyEntry, verifyEntry, hloader, select, select, hsource, afterEntry]
  · have hsource : (v.afterEntry files b).source = v.source.afterLookup files b.id := if_neg hmapped
    have hfixed : v.source.Fixed (· = files) := fun _ _ hx hy _ => by rw [hx, hy]
    have hclass := hfixed.classFor_afterLookup rfl rfl a.id b.id
    rw [ClassSource.classFor_eq_map, ClassSource.classFor_eq_map] at hclass
    rw [verifyEntry, verifyEntry, hloader, hsource, ClassSource.name_afterLookup, select, select,
      hsource, afterEntry,
      checkSelection_of_content (ClassMapping.content_select_congr hclass a.modelType)]

/-- The failures of some entries are those of each, one after the other. -/
theorem verifyEntries_eq_mapM (h : v.catalog.Fixed) (entries : List Architecture) :
    v.verifyEntries files entries = (entries.mapM (v.verifyEntry files)).map List.flatten := by
  induction entries generalizing v with
  | nil => rfl
  | cons a rest ih =>
      have hstatic : (v.afterEntry files a).catalog.Fixed := by
        rw [afterEntry, Catalog.afterLookup_eq_self h]
        exact h
      have hchecks : (v.afterEntry files a).verifyEntry files = v.verifyEntry files :=
        funext fun b => verifyEntry_afterEntry h a
      rw [verifyEntries, ih hstatic, hchecks, List.mapM_cons]
      cases v.verifyEntry files a with
      | error reason => rfl
      | ok found => cases rest.mapM (v.verifyEntry files) <;> rfl

theorem report_eq_mapM (h : v.catalog.Fixed) (files : Files) (registry : Registry) :
    v.report files registry = (registry.entries.mapM (v.verifyEntry files)).map fun found =>
      ⟨registry.entries.length, found.flatten⟩ := by
  rw [Verifier.report, verifyEntries_eq_mapM h]
  cases registry.entries.mapM (v.verifyEntry files) <;> rfl

end Verifier

/-! ## Counting -/

namespace Report

variable {ids : List String} {id : String} {failures : List Failure}

/-- The architectures of some failures after those that are listed, each once. -/
def failedFrom (ids : List String) (failures : List Failure) : List String :=
  failures.foldl (fun ids f => if f.architecture ∈ ids then ids else ids ++ [f.architecture]) ids

theorem failedFrom_append (ids : List String) (failures more : List Failure) :
    failedFrom ids (failures ++ more) = failedFrom (failedFrom ids failures) more :=
  List.foldl_append

theorem failedFrom_of_mem (h : ∀ f ∈ failures, f.architecture = id) (hid : id ∈ ids) :
    failedFrom ids failures = ids := by
  induction failures with
  | nil => rfl
  | cons f rest ih =>
      rw [List.forall_mem_cons] at h
      rw [← List.singleton_append, failedFrom_append]
      have hfirst : failedFrom ids [f] = ids := if_pos (h.1 ▸ hid)
      rw [hfirst, ih h.2]

theorem failedFrom_of_not_mem (h : ∀ f ∈ failures, f.architecture = id) (hid : id ∉ ids)
    (hne : failures ≠ []) : failedFrom ids failures = ids ++ [id] := by
  cases failures with
  | nil => exact absurd rfl hne
  | cons f rest =>
      rw [List.forall_mem_cons] at h
      obtain ⟨rfl, hrest⟩ := h
      rw [← List.singleton_append, failedFrom_append]
      have hfirst : failedFrom ids [f] = ids ++ [f.architecture] := if_neg hid
      rw [hfirst, failedFrom_of_mem hrest (by simp)]

variable {checks : Architecture → List Failure} {entries : List Architecture}

/-- Where every entry has an id of its own, the architectures that fail are the entries with
failures. -/
theorem failedFrom_flatMap (howner : ∀ a, ∀ f ∈ checks a, f.architecture = a.id)
    (hdistinct : (entries.map (·.id)).Nodup) (hnew : ∀ a ∈ entries, a.id ∉ ids) :
    failedFrom ids (entries.flatMap checks) =
      ids ++ (entries.filter fun a => !(checks a).isEmpty).map (·.id) := by
  induction entries generalizing ids with
  | nil => rw [List.filter_nil, List.map_nil, List.append_nil]; rfl
  | cons a rest ih =>
      rw [List.map_cons, List.nodup_cons] at hdistinct
      rw [List.forall_mem_cons] at hnew
      rw [List.flatMap_cons, failedFrom_append]
      by_cases hchecks : checks a = []
      · have hsame : failedFrom ids (checks a) = ids := by rw [hchecks]; rfl
        rw [hsame, ih hdistinct.2 hnew.2]
        simp [hchecks]
      · rw [failedFrom_of_not_mem (howner a) hnew.1 hchecks, ih hdistinct.2]
        · simp [hchecks]
        · intro b hb hmem
          rcases List.mem_append.mp hmem with hold | hsame
          · exact hnew.2 b hb hold
          · rw [List.mem_singleton] at hsame
            exact hdistinct.1 (hsame ▸ List.mem_map.mpr ⟨b, hb, rfl⟩)

/-- The failures with the id of an entry are the failures of that entry. -/
theorem filter_flatMap_of_mem (howner : ∀ a, ∀ f ∈ checks a, f.architecture = a.id)
    (hdistinct : (entries.map (·.id)).Nodup) {a : Architecture} (ha : a ∈ entries) :
    ((entries.flatMap checks).filter fun f => f.architecture = a.id) = checks a := by
  obtain ⟨before, after, rfl⟩ := List.append_of_mem ha
  rw [List.map_append, List.map_cons, List.nodup_append, List.nodup_cons] at hdistinct
  obtain ⟨-, ⟨hafter, -⟩, hbefore⟩ := hdistinct
  have hothers : ∀ others : List Architecture, (∀ b ∈ others, b.id ≠ a.id) →
      ((others.flatMap checks).filter fun f => f.architecture = a.id) = [] := by
    intro others hothers
    rw [List.filter_eq_nil_iff]
    intro f hf
    obtain ⟨b, hb, hfb⟩ := List.mem_flatMap.mp hf
    rw [howner b f hfb]
    simpa using hothers b hb
  rw [List.flatMap_append, List.flatMap_cons, List.filter_append, List.filter_append,
    hothers before, hothers after, List.nil_append, List.append_nil, List.filter_eq_self]
  · intro f hf
    simpa using howner a f hf
  · intro b hb hsame
    exact hafter (hsame ▸ List.mem_map.mpr ⟨b, hb, rfl⟩)
  · intro b hb
    exact hbefore b.id (List.mem_map.mpr ⟨b, hb, rfl⟩) a.id List.mem_cons_self

end Report

namespace Verifier

variable {v : Verifier} {files : Files} {a : Architecture}

/-- What the check of an entry finds, if it comes to an end. -/
def found (v : Verifier) (files : Files) (a : Architecture) : List Failure :=
  (v.verifyEntry files a).toOption.getD []

/-- A report that says of every entry of a registry what the entry's own check says: which failures
there are, whose they are, and how many entries pass. -/
structure Reports (v : Verifier) (files : Files) (registry : Registry) (report : Report) :
    Prop where
  /-- The check of each entry comes to an end. -/
  checks : ∀ a ∈ registry.entries, v.verifyEntry files a = .ok (v.found files a)
  checked : report.checked = registry.entries.length
  failures : report.failures = registry.entries.flatMap (v.found files)
  /-- Whatever is registered with an entry, the failures with its id are those of its check. -/
  verdict : ∀ a ∈ registry.entries,
    (report.failures.filter fun f => f.architecture = a.id) = v.found files a
  failed : report.failedArchitectures =
    (registry.entries.filter fun a => !(v.found files a).isEmpty).map (·.id)
  distinct : report.failedArchitectures.Nodup
  /-- The number of passed entries is a difference of numbers, and never one below zero. -/
  failed_le_checked : report.failedArchitectures.length ≤ report.checked
  passed : report.passed =
    (registry.entries.filter fun a => (v.found files a).isEmpty).length

theorem found_of_verifyEntry {failures : List Failure} (h : v.verifyEntry files a = .ok failures) :
    v.found files a = failures := by
  rw [found, h]
  rfl

theorem architecture_of_mem_found {f : Failure} (h : f ∈ v.found files a) :
    f.architecture = a.id := by
  rw [found] at h
  cases hcheck : v.verifyEntry files a with
  | error reason =>
      rw [hcheck] at h
      cases h
  | ok failures =>
      rw [hcheck] at h
      obtain ⟨kinds, -, rfl⟩ := verifyEntry_eq_ok_iff.mp hcheck
      obtain ⟨kind, -, rfl⟩ := List.mem_map.mp h
      rfl

theorem mapM_eq_ok_found {entries : List Architecture}
    (h : ∀ a ∈ entries, v.verifyEntry files a = .ok (v.found files a)) :
    entries.mapM (v.verifyEntry files) = .ok (entries.map (v.found files)) := by
  rw [mapM_eq_ok_iff, List.map_map]
  exact List.map_congr_left h

/-- There is a report exactly if the check of each entry comes to an end. -/
theorem exists_report_iff (h : v.catalog.Fixed) {registry : Registry} :
    (∃ report, v.report files registry = .ok report) ↔
      ∀ a ∈ registry.entries, v.verifyEntry files a = .ok (v.found files a) := by
  rw [report_eq_mapM h]
  constructor
  · rintro ⟨report, hreport⟩ a ha
    cases hfound : registry.entries.mapM (v.verifyEntry files) with
    | error reason =>
        rw [hfound] at hreport
        cases hreport
    | ok lists =>
        have hmem : v.verifyEntry files a ∈ lists.map .ok := by
          rw [← mapM_eq_ok_iff.mp hfound]
          exact List.mem_map_of_mem ha
        obtain ⟨failures, -, hcheck⟩ := List.mem_map.mp hmem
        rw [found_of_verifyEntry hcheck.symm, ← hcheck]
  · intro hchecks
    rw [mapM_eq_ok_found hchecks]
    exact ⟨_, rfl⟩

theorem reports_of_report (h : v.catalog.Fixed) {registry : Registry} {report : Report}
    (hreport : v.report files registry = .ok report) : v.Reports files registry report := by
  have hchecks := (exists_report_iff h).mp ⟨report, hreport⟩
  rw [report_eq_mapM h, mapM_eq_ok_found hchecks] at hreport
  obtain ⟨checked, failures⟩ := report
  obtain ⟨rfl, rfl⟩ := Report.mk.inj (Except.ok.inj hreport)
  rw [← List.flatMap_def]
  have howner : ∀ a, ∀ f ∈ v.found files a, f.architecture = a.id :=
    fun a f => architecture_of_mem_found
  have hfailed : (Report.mk registry.entries.length
      (registry.entries.flatMap (v.found files))).failedArchitectures =
      (registry.entries.filter fun a => !(v.found files a).isEmpty).map (·.id) :=
    Report.failedFrom_flatMap howner registry.nodup_ids (by simp)
  have hcount := registry.entries.length_eq_length_filter_add
    fun a => (v.found files a).isEmpty
  have hlength := congrArg List.length hfailed
  rw [List.length_map] at hlength
  exact {
    checks := hchecks
    checked := rfl
    failures := rfl
    verdict := fun a ha => Report.filter_flatMap_of_mem howner registry.nodup_ids ha
    failed := hfailed
    distinct := by
      rw [hfailed]
      exact registry.nodup_ids.sublist (List.filter_sublist.map _)
    failed_le_checked := by
      rw [hlength]
      exact List.length_filter_le _ _
    passed := by
      rw [Report.passed, hlength]
      exact Nat.sub_eq_of_eq_add hcount }

/-- There is a report without failures exactly if the check of each entry finds nothing. -/
theorem exists_clean_report_iff (h : v.catalog.Fixed) {registry : Registry} :
    (∃ report, v.report files registry = .ok report ∧ report.isOk = true) ↔
      ∀ a ∈ registry.entries, v.verifyEntry files a = .ok [] := by
  constructor
  · rintro ⟨report, hreport, hok⟩ a ha
    have hreports := reports_of_report h hreport
    rw [Report.isOk, List.isEmpty_iff, hreports.failures, List.flatMap_eq_nil_iff] at hok
    rw [hreports.checks a ha, hok a ha]
  · intro hpass
    have hfound : ∀ a ∈ registry.entries, v.found files a = [] :=
      fun a ha => found_of_verifyEntry (hpass a ha)
    have hends : ∃ report, v.report files registry = .ok report :=
      (exists_report_iff h).mpr fun a ha => by rw [hpass a ha, hfound a ha]
    obtain ⟨report, hreport⟩ := hends
    refine ⟨report, hreport, ?_⟩
    rw [Report.isOk, List.isEmpty_iff, (reports_of_report h hreport).failures,
      List.flatMap_eq_nil_iff]
    exact hfound

end Verifier

end ModelRegistry
