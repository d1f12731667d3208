import ModelRegistry.Proofs.Config.Selection
import ModelRegistry.Verification

/-!
# ModelRegistry.Proofs.Verification

What it means that an entry passes, and what the verifier has done by the time it
turns to one. The entries in front of it have been looked up in the source, and
nothing else has happened; so every entry is checked by a verifier of the same
mapping, and of a source that differs only in what it remembers. The check of an entry
comes to an end unless the program stops at the declared adapter.
-/

namespace ModelRegistry

theorem bind_eq_ok_iff {ε α β : Type} {x : Except ε α} {f : α → Except ε β} {b : β} :
    (x >>= f) = .ok b ↔ ∃ a, x = .ok a ∧ f a = .ok b := by
  cases x <;> simp [bind, Except.bind]

theorem bind_eq_error_iff {ε α β : Type} {x : Except ε α} {f : α → Except ε β} {e : ε} :
    (x >>= f) = .error e ↔ x = .error e ∨ ∃ a, x = .ok a ∧ f a = .error e := by
  cases x <;> simp [bind, Except.bind]

namespace Verifier

variable {v : Verifier} {trees : Files → Prop} {files : Files} {a : Architecture}

/-! ## The checks of an entry -/

theorem checkLoader_eq_nil_iff :
    v.checkLoader a = [] ↔ ∃ implementation, v.catalog.locate a.loader = .ok implementation := by
  rw [checkLoader]
  cases v.catalog.locate a.loader with
  | ok implementation => simp
  | error e => simp

theorem checkSelection_eq_nil_iff {sourceName : String} {selection : Selection} :
    checkSelection sourceName selection = [] ↔
      ∃ strategy c, selection.chosen = some (strategy, c) ∧ c.value.checkWellFormed = .ok () := by
  rw [checkSelection]
  cases hchosen : selection.chosen with
  | none => cases selection.sourceFailure? <;> simp
  | some pick =>
      obtain ⟨strategy, c⟩ := pick
      cases hcheck : c.value.checkWellFormed with
      | ok u =>
          simp only [hcheck, true_iff]
          exact ⟨strategy, c, rfl, hcheck⟩
      | error e => simp [hcheck]

/-- An entry passes the check of its declaration exactly if it takes no part or has a valid
adapter. -/
theorem checkSpeculative_eq_nil_iff :
    checkSpeculative a = .ok [] ↔
      ∀ s, a.speculative = some s → s.role = .none ∨ s.adapter.validate = .ok () := by
  rw [checkSpeculative]
  cases a.speculative with
  | none => simp
  | some s =>
      by_cases hrole : s.role = .none
      · simp [hrole]
      · cases hvalid : s.adapter.validate with
        | ok u => simp [hrole, hvalid]
        | error e => cases e <;> simp [hrole, hvalid]

theorem checkSpeculative_eq_error_iff {reason : Halt} :
    checkSpeculative a = .error reason ↔
      ∃ s, a.speculative = some s ∧ s.role ≠ .none ∧
        s.adapter.validate = .error (.halt reason) := by
  rw [checkSpeculative]
  cases a.speculative with
  | none => simp
  | some s =>
      by_cases hrole : s.role = .none
      · simp [hrole]
      · cases hvalid : s.adapter.validate with
        | ok u => simp [hrole, hvalid]
        | error e => cases e <;> simp [hrole, hvalid]

theorem verifyEntry_eq_ok_iff {failures : List Failure} :
    v.verifyEntry files a = .ok failures ↔
      ∃ kinds, checkSpeculative a = .ok kinds ∧
        (v.checkLoader a ++ checkSelection v.source.name (v.select files a) ++ kinds).map
          (⟨a.id, ·⟩) = failures := by
  simp only [verifyEntry, bind_eq_ok_iff, pure, Except.pure, Except.ok.injEq]

/-- The check of an entry comes to an end unless the program stops at its adapter. -/
theorem verifyEntry_eq_error_iff {reason : Halt} :
    v.verifyEntry files a = .error reason ↔ checkSpeculative a = .error reason := by
  simp [verifyEntry, bind_eq_error_iff, pure, Except.pure]

theorem verifyEntry_eq_nil_iff :
    v.verifyEntry files a = .ok [] ↔
      (∃ implementation, v.catalog.locate a.loader = .ok implementation) ∧
      (∃ strategy c, (v.select files a).chosen = some (strategy, c) ∧
        c.value.checkWellFormed = .ok ()) ∧
      checkSpeculative a = .ok [] := by
  simp only [verifyEntry_eq_ok_iff, List.map_eq_nil_iff, List.append_eq_nil_iff,
    checkLoader_eq_nil_iff, checkSelection_eq_nil_iff, and_assoc]
  constructor
  · rintro ⟨kinds, hkinds, hlocated, hselects, rfl⟩
    exact ⟨hlocated, hselects, hkinds⟩
  · rintro ⟨hlocated, hselects, hkinds⟩
    exact ⟨[], hkinds, hlocated, hselects, rfl⟩

/-! ## The checks of all entries -/

@[simp] theorem afterEntries_cons (rest : List Architecture) :
    v.afterEntries files (a :: rest) = (v.afterEntry files a).afterEntries files rest :=
  rfl

theorem afterEntries_append (before rest : List Architecture) :
    v.afterEntries files (before ++ rest) =
      (v.afterEntries files before).afterEntries files rest := by
  rw [afterEntries, List.foldl_append]
  rfl

theorem verifyEntries_cons_eq_ok_iff {rest : List Architecture} {failures : List Failure} :
    v.verifyEntries files (a :: rest) = .ok failures ↔
      ∃ found others, v.verifyEntry files a = .ok found ∧
        (v.afterEntry files a).verifyEntries files rest = .ok others ∧
        found ++ others = failures := by
  simp only [verifyEntries, bind_eq_ok_iff, pure, Except.pure, Except.ok.injEq,
    exists_and_left]

/-- Where the checks of all entries come to an end, so does each when its turn comes, and finds
what is found in the end. -/
theorem exists_found_of_verifyEntries {before after : List Architecture} {failures : List Failure}
    (h : v.verifyEntries files (before ++ a :: after) = .ok failures) :
    ∃ found, (v.afterEntries files before).verifyEntry files a = .ok found ∧
      found ⊆ failures := by
  induction before generalizing v failures with
  | nil =>
      obtain ⟨found, others, hfound, -, rfl⟩ := verifyEntries_cons_eq_ok_iff.mp h
      exact ⟨found, hfound, List.subset_append_left _ _⟩
  | cons b before ih =>
      obtain ⟨first, others, -, hothers, rfl⟩ := verifyEntries_cons_eq_ok_iff.mp h
      obtain ⟨found, hfound, hsubset⟩ := ih hothers
      exact ⟨found, hfound, List.subset_append_of_subset_right _ hsubset⟩

theorem report_eq_ok_iff {registry : Registry} {report : Report} :
    v.report files registry = .ok report ↔
      report.checked = registry.size ∧
        v.verifyEntries files registry.entries = .ok report.failures := by
  obtain ⟨checked, failures⟩ := report
  simp only [Verifier.report, bind_eq_ok_iff, pure, Except.pure, Except.ok.injEq,
    Report.mk.injEq]
  constructor
  · rintro ⟨_, hfailures, rfl, rfl⟩
    exact ⟨rfl, hfailures⟩
  · rintro ⟨rfl, hfailures⟩
    exact ⟨failures, hfailures, rfl, rfl⟩

/-- In a clean report every entry passes when its turn comes. -/
theorem verifyEntry_of_isOk {registry : Registry} {report : Report}
    (h : v.report files registry = .ok report) (hok : report.isOk = true)
    {before after : List Architecture} (hsplit : registry.entries = before ++ a :: after) :
    (v.afterEntries files before).verifyEntry files a = .ok [] := by
  obtain ⟨-, hfailures⟩ := report_eq_ok_iff.mp h
  rw [List.isEmpty_iff.mp hok, hsplit] at hfailures
  obtain ⟨found, hfound, hsubset⟩ := exists_found_of_verifyEntries hfailures
  rw [hfound, List.subset_nil.mp hsubset]

@[simp] theorem mapping_afterEntries (entries : List Architecture) :
    (v.afterEntries files entries).mapping = v.mapping := by
  induction entries generalizing v with
  | nil => rfl
  | cons a rest ih => rw [afterEntries_cons, ih, afterEntry]

theorem catalog_afterEntries (h : v.catalog.Fixed) (entries : List Architecture) :
    (v.afterEntries files entries).catalog = v.catalog := by
  induction entries generalizing v with
  | nil => rfl
  | cons a rest ih =>
      have hsame : (v.afterEntry files a).catalog = v.catalog := Catalog.afterLookup_eq_self h
      rw [afterEntries_cons, ih (hsame ▸ h), hsame]

/-- What every look-up keeps of the source, the checks keep. -/
theorem source_afterEntries {kept : ClassSource → Prop} (h : kept v.source)
    (hstep : ∀ s id, kept s → kept (s.afterLookup files id)) (entries : List Architecture) :
    kept (v.afterEntries files entries).source := by
  induction entries generalizing v with
  | nil => exact h
  | cons a rest ih =>
      apply ih
      simp only [afterEntry]
      split
      · exact h
      · exact hstep _ _ h

/-- What the look-up of an entry that is not mapped brings about, the later checks leave. -/
theorem source_after_turn {kept : ClassSource → Prop} {before after : List Architecture}
    (hmapped : v.mapping.contains a.id = false)
    (h : kept ((v.afterEntries files before).source.afterLookup files a.id))
    (hstep : ∀ s id, kept s → kept (s.afterLookup files id)) :
    kept (v.afterEntries files (before ++ a :: after)).source := by
  rw [afterEntries_append, afterEntries_cons]
  refine source_afterEntries ?_ hstep after
  simp only [afterEntry, mapping_afterEntries, hmapped, Bool.false_eq_true, if_false]
  exact h

/-- Verification settles what a source with fixed answers says about each entry that is not
mapped: it is what the verifier was told when the entry's turn came. -/
theorem settled_afterEntries (hfixed : v.source.Fixed trees) (hfiles : trees files)
    {before after : List Architecture} (hmapped : v.mapping.contains a.id = false) :
    ClassSource.Settled trees a.id ((v.afterEntries files before).source.answer files a.id)
      (v.afterEntries files (before ++ a :: after)).source := by
  have hturn : ((v.afterEntries files before).source).Fixed trees :=
    source_afterEntries hfixed (fun s id h => h.afterLookup files id) before
  exact source_after_turn hmapped (hturn.settled hfiles a.id)
    (fun s id h => h.afterLookup hfiles id)

end Verifier

end ModelRegistry
