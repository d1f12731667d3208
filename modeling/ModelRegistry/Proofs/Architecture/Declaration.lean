import Mathlib.Data.List.Induction
import ModelRegistry.Architecture.Declaration
import ModelRegistry.Proofs.Architecture.Registry

/-!
# ModelRegistry.Proofs.Architecture.Declaration

How far a table of declarations is registered. Rows go in as long as each of them
names a modality and an id that is neither registered nor that of a row before it
(`Admits`); the first row of which this is not true is declined (`Declines`), and the
registry is left as the rows before it made it.

Every table is admitted, or there is a first row that is declined
(`admits_or_declines`), and registering admitted rows leads to the rest of the table
(`registerFrom_append`); all that is said of tables follows from these two.
-/

namespace ModelRegistry

/-! ## Rows -/

namespace Declaration

variable {r : Registry}

/-- The entry that a row with a modality declares. -/
def entry (d : Declaration) : Architecture :=
  ⟨d.id, Modality.set d.modalities, d.loader, d.modelType, d.speculative⟩

theorem toEntry_of_modalities {d : Declaration} (h : d.modalities ≠ []) :
    d.toEntry = .ok d.entry := by
  rw [toEntry, if_neg (by simpa using h)]
  rfl

theorem toEntry_of_no_modalities {d : Declaration} (h : d.modalities = []) :
    d.toEntry = .error (.noModalities d.id) := by
  rw [toEntry, if_pos (by simpa using h)]

/-- What an open registry makes of a row: it refuses one without modalities before it looks at
its id. -/
theorem register_cases (hopen : r.frozen = false) (d : Declaration) :
    (d.modalities = [] ∧ d.register r = .error (.noModalities d.id)) ∨
    (d.modalities ≠ [] ∧ r.contains d.id = true ∧
      d.register r = .error (.registry (.duplicateArchitecture d.id))) ∨
    (d.modalities ≠ [] ∧ r.contains d.id = false ∧
      ∃ next, d.register r = .ok next ∧ next.entries = r.entries ++ [d.entry] ∧
        next.frozen = false) := by
  by_cases hmodalities : d.modalities = []
  · refine .inl ⟨hmodalities, ?_⟩
    rw [register, toEntry_of_no_modalities hmodalities]
  · have hentry := toEntry_of_modalities hmodalities
    rcases r.register_cases d.entry with
      ⟨hfrozen, -⟩ | ⟨-, hcontains, herror⟩ | ⟨-, hnew, next, hok, hentries, hopen'⟩
    · rw [hopen] at hfrozen
      cases hfrozen
    · refine .inr (.inl ⟨hmodalities, hcontains, ?_⟩)
      simp only [register, hentry, herror]
      rfl
    · refine .inr (.inr ⟨hmodalities, hnew, next, ?_, hentries, hopen'⟩)
      simp only [register, hentry, hok]

end Declaration

/-! ## Tables -/

namespace Registry

variable {r next : Registry} {d : Declaration} {before rest declarations : List Declaration}

/-- Every row of a table can be registered, one after the other. -/
structure Admits (r : Registry) (declarations : List Declaration) : Prop where
  declared : ∀ d ∈ declarations, d.modalities ≠ []
  distinct : (declarations.map (·.id)).Nodup
  new : ∀ d ∈ declarations, r.contains d.id = false

theorem admits_nil : r.Admits [] :=
  ⟨by simp, .nil, by simp⟩

theorem contains_of_entries_concat {a : Architecture} (h : next.entries = r.entries ++ [a])
    (id : String) : next.contains id = false ↔ r.contains id = false ∧ id ≠ a.id := by
  simp [contains_eq_false_iff_not_mem_ids, h]

/-- A table is admitted if its first row is, and the rest by the registry with that row. -/
theorem admits_cons_iff (h : next.entries = r.entries ++ [d.entry]) :
    r.Admits (d :: rest) ↔
      d.modalities ≠ [] ∧ r.contains d.id = false ∧ next.Admits rest := by
  have hnext := contains_of_entries_concat h
  constructor
  · intro hadmits
    obtain ⟨hdeclared, hdistinct, hnew⟩ := hadmits
    rw [List.forall_mem_cons] at hdeclared hnew
    rw [List.map_cons, List.nodup_cons] at hdistinct
    refine ⟨hdeclared.1, hnew.1, hdeclared.2, hdistinct.2, ?_⟩
    intro e he
    refine (hnext e.id).mpr ⟨hnew.2 e he, ?_⟩
    intro hsame
    exact hdistinct.1 (List.mem_map.mpr ⟨e, he, hsame⟩)
  · intro hadmits
    obtain ⟨hmodalities, hcontains, hdeclared, hdistinct, hnew⟩ := hadmits
    refine ⟨List.forall_mem_cons.mpr ⟨hmodalities, hdeclared⟩, ?_,
      List.forall_mem_cons.mpr ⟨hcontains, fun e he => ((hnext e.id).mp (hnew e he)).1⟩⟩
    rw [List.map_cons, List.nodup_cons]
    refine ⟨?_, hdistinct⟩
    intro hmem
    obtain ⟨e, he, hsame⟩ := List.mem_map.mp hmem
    exact ((hnext e.id).mp (hnew e he)).2 hsame

/-- The error with which a row is declined after some rows were registered. That it names no
modality comes first. -/
inductive Declines (r : Registry) (before : List Declaration) (d : Declaration) :
    DeclarationError → Prop where
  | noModalities : d.modalities = [] → Declines r before d (.noModalities d.id)
  | duplicate : d.modalities ≠ [] → r.contains d.id = true ∨ d.id ∈ before.map (·.id) →
      Declines r before d (.registry (.duplicateArchitecture d.id))

/-- A row that is not declined is admitted after the rows before it. -/
theorem Admits.concat (h : r.Admits before) (hd : ∀ e, ¬ r.Declines before d e) :
    r.Admits (before ++ [d]) := by
  have hmodalities : d.modalities ≠ [] := fun hnone => hd _ (.noModalities hnone)
  have hnew : r.contains d.id = false ∧ d.id ∉ before.map (·.id) := by
    by_contra hold
    refine hd _ (.duplicate hmodalities ?_)
    cases hcontains : r.contains d.id with
    | true => exact .inl rfl
    | false => exact .inr (by simpa [hcontains] using hold)
  refine ⟨?_, ?_, ?_⟩
  · exact List.forall_mem_append.mpr ⟨h.declared, by simpa using hmodalities⟩
  · rw [List.map_append, List.nodup_append]
    refine ⟨h.distinct, by simp, ?_⟩
    intro id hid other hother hsame
    obtain rfl : other = d.id := by simpa using hother
    exact hnew.2 (hsame ▸ hid)
  · exact List.forall_mem_append.mpr ⟨h.new, by simpa using hnew.1⟩

/-- A table is admitted, or it has a first row that is declined. -/
theorem admits_or_declines (r : Registry) (declarations : List Declaration) :
    r.Admits declarations ∨ ∃ before d after e, declarations = before ++ d :: after ∧
      r.Admits before ∧ r.Declines before d e := by
  induction declarations using List.reverseRecOn with
  | nil => exact .inl admits_nil
  | append_singleton rows last ih =>
      rcases ih with hadmits | ⟨before, d, after, e, rfl, hbefore, hdeclined⟩
      · by_cases hlast : ∃ e, r.Declines rows last e
        · obtain ⟨e, he⟩ := hlast
          exact .inr ⟨rows, last, [], e, rfl, hadmits, he⟩
        · exact .inl (hadmits.concat (not_exists.mp hlast))
      · exact .inr ⟨before, d, after ++ [last], e, by simp, hbefore, hdeclined⟩

/-- Rows that are admitted are passed, and their entries follow those of the registry. -/
theorem registerFrom_append (hopen : r.frozen = false) (h : r.Admits before) :
    ∃ next, next.frozen = false ∧ next.entries = r.entries ++ before.map Declaration.entry ∧
      ∀ count rest, registerFrom count r (before ++ rest) =
        registerFrom (count + before.length) next rest := by
  induction before generalizing r with
  | nil => exact ⟨r, hopen, by simp, fun count rest => rfl⟩
  | cons d more ih =>
      rcases d.register_cases hopen with
        ⟨hnone, -⟩ | ⟨-, hcontains, -⟩ | ⟨-, -, first, hok, hentries, hopen'⟩
      · exact absurd hnone (h.declared d List.mem_cons_self)
      · rw [h.new d List.mem_cons_self] at hcontains
        cases hcontains
      · obtain ⟨-, -, hmore⟩ := (admits_cons_iff hentries).mp h
        obtain ⟨next, hfrozen, hnext, hrest⟩ := ih hopen' hmore
        refine ⟨next, hfrozen, by simp [hnext, hentries], ?_⟩
        intro count rest
        rw [List.cons_append, registerFrom, hok]
        simp only [hrest, List.length_cons]
        congr 1
        omega

/-- A row that is declined cannot be registered in what the rows before it made of the registry. -/
theorem Declines.register {e : DeclarationError} (h : r.Declines before d e)
    (hopen : next.frozen = false)
    (hentries : next.entries = r.entries ++ before.map Declaration.entry) :
    d.register next = .error e := by
  have hcontains : next.contains d.id = true ↔
      r.contains d.id = true ∨ d.id ∈ before.map (·.id) := by
    rw [contains_iff_mem_ids, contains_iff_mem_ids, hentries]
    simp [Declaration.entry]
  rcases d.register_cases hopen with
    ⟨hnone, herror⟩ | ⟨hsome, hold, herror⟩ | ⟨hsome, hnew, -⟩
  · cases h with
    | noModalities _ => exact herror
    | duplicate hsome _ => exact absurd hnone hsome
  · cases h with
    | noModalities hnone => exact absurd hnone hsome
    | duplicate _ _ => exact herror
  · cases h with
    | noModalities hnone => exact absurd hnone hsome
    | duplicate _ hold =>
        rw [hcontains.mpr hold] at hnew
        cases hnew

theorem registerFrom_of_admits (hopen : r.frozen = false) (h : r.Admits declarations)
    (count : Nat) :
    ∃ next, registerFrom count r declarations = ⟨next, .ok (count + declarations.length)⟩ ∧
      next.frozen = false ∧ next.entries = r.entries ++ declarations.map Declaration.entry := by
  obtain ⟨next, hfrozen, hentries, hrest⟩ := registerFrom_append hopen h
  refine ⟨next, ?_, hfrozen, hentries⟩
  rw [← List.append_nil declarations, hrest, List.append_nil]
  rfl

theorem registerFrom_of_declines {e : DeclarationError} (hopen : r.frozen = false)
    (h : r.Admits before) (hd : r.Declines before d e) (count : Nat) (rest : List Declaration) :
    ∃ next, registerFrom count r (before ++ d :: rest) = ⟨next, .error e⟩ ∧
      next.frozen = false ∧ next.entries = r.entries ++ before.map Declaration.entry := by
  obtain ⟨next, hfrozen, hentries, hrest⟩ := registerFrom_append hopen h
  refine ⟨next, ?_, hfrozen, hentries⟩
  rw [hrest, registerFrom, hd.register hfrozen hentries]

/-- All rows are registered exactly if the table is admitted. -/
theorem registerFrom_eq_ok_iff (hopen : r.frozen = false) {count n : Nat} :
    (registerFrom count r declarations).outcome = .ok n ↔
      r.Admits declarations ∧ n = count + declarations.length := by
  rcases r.admits_or_declines declarations with
    hadmits | ⟨before, d, after, e, rfl, hbefore, hdeclined⟩
  · obtain ⟨next, hresult, -⟩ := registerFrom_of_admits hopen hadmits count
    simp [hresult, hadmits, eq_comm]
  · obtain ⟨next, hresult, -⟩ := registerFrom_of_declines hopen hbefore hdeclined count after
    simp only [hresult, reduceCtorEq, false_iff, not_and]
    intro hadmits
    obtain ⟨next', hresult', -⟩ := registerFrom_of_admits hopen hadmits count
    rw [hresult] at hresult'
    cases hresult'

/-- A frozen registry takes no row. -/
theorem registerFrom_of_frozen (hfrozen : r.frozen = true) (count : Nat)
    (declarations : List Declaration) : (registerFrom count r declarations).registry = r := by
  cases declarations with
  | nil => rfl
  | cons d rest =>
      have herror : ∃ e, d.register r = .error e := by
        by_cases hmodalities : d.modalities = []
        · exact ⟨_, by rw [Declaration.register, Declaration.toEntry_of_no_modalities hmodalities]⟩
        · refine ⟨.registry (.registryFrozen d.id), ?_⟩
          simp only [Declaration.register, Declaration.toEntry_of_modalities hmodalities,
            register_of_frozen hfrozen]
          rfl
      obtain ⟨e, he⟩ := herror
      rw [registerFrom, he]

/-! ## Main theorem -/

/-- **Registering a table stops at its first defect**: an open registry takes a table exactly if
every row of it names a modality and their ids are distinct and new, and says how many rows there
were. Otherwise there is a first row that names no modality or has an id that is registered or
stands in a row before it, and this row is what the error is about. The entries of the rows that
were taken follow those that the registry had, in order: all of them, or those before the row that
was declined. A frozen registry stays as it is. -/
theorem registration_stops_at_first_defect (r : Registry) (declarations : List Declaration) :
    let result := r.registerAll declarations
    (r.frozen = false →
      (∀ n, result.outcome = .ok n ↔ r.Admits declarations ∧ n = declarations.length) ∧
      (∀ e, result.outcome = .error e ↔ ∃ before d after,
        declarations = before ++ d :: after ∧ r.Admits before ∧ r.Declines before d e) ∧
      (r.Admits declarations →
        result.registry.entries = r.entries ++ declarations.map Declaration.entry) ∧
      ∀ before d after e, declarations = before ++ d :: after → r.Admits before →
        r.Declines before d e →
        result.registry.entries = r.entries ++ before.map Declaration.entry) ∧
    (r.frozen = true → result.registry = r) := by
  intro result
  refine ⟨?_, fun hfrozen => registerFrom_of_frozen hfrozen 0 declarations⟩
  intro hopen
  refine ⟨?_, ?_, ?_, ?_⟩
  · intro n
    exact (registerFrom_eq_ok_iff hopen).trans (by rw [Nat.zero_add])
  · intro e
    constructor
    · intro herror
      rcases r.admits_or_declines declarations with
        hadmits | ⟨before, d, after, e', rfl, hbefore, hdeclined⟩
      · obtain ⟨next, hresult, -⟩ := registerFrom_of_admits hopen hadmits 0
        cases herror.symm.trans (congrArg Registration.outcome hresult)
      · obtain ⟨next, hresult, -⟩ := registerFrom_of_declines hopen hbefore hdeclined 0 after
        obtain rfl : e = e' :=
          Except.error.inj (herror.symm.trans (congrArg Registration.outcome hresult))
        exact ⟨before, d, after, rfl, hbefore, hdeclined⟩
    · intro h
      obtain ⟨before, d, after, rfl, hbefore, hdeclined⟩ := h
      obtain ⟨next, hresult, -⟩ := registerFrom_of_declines hopen hbefore hdeclined 0 after
      exact congrArg Registration.outcome hresult
  · intro hadmits
    obtain ⟨next, hresult, -, hentries⟩ := registerFrom_of_admits hopen hadmits 0
    rw [← hentries]
    exact congrArg (fun done => done.registry.entries) hresult
  · rintro before d after e rfl hbefore hdeclined
    obtain ⟨next, hresult, -, hentries⟩ :=
      registerFrom_of_declines hopen hbefore hdeclined 0 after
    rw [← hentries]
    exact congrArg (fun done => done.registry.entries) hresult

/-- A row with these modalities. -/
def rowFor (id : String) (modalities : List Modality) : Declaration :=
  ⟨id, modalities, ⟨"models", id⟩, none, none⟩

/-- The first two rows are new. The third has two defects, and the fourth is registered. -/
def mixedRows : List Declaration :=
  [rowFor "B" [.text, .video], rowFor "C" [.text], rowFor "B" [], rowFor "A" [.text]]

theorem third_row_stops :
    let r := (empty.registerAll [rowFor "A" [.text]]).registry
    r.frozen = false ∧
      (r.registerAll mixedRows).outcome = .error (.noModalities "B") ∧
      (r.registerAll mixedRows).registry.entries.map (·.id) = ["A", "B", "C"] ∧
      (r.registerAll (mixedRows.take 2)).outcome = .ok 2 ∧
      (r.freeze.registerAll mixedRows).registry = r.freeze := by
  intro r
  have hadmits : r.Admits (mixedRows.take 2) := ⟨by decide, by decide, by decide⟩
  have hdeclined : r.Declines (mixedRows.take 2) (rowFor "B" []) (.noModalities "B") :=
    .noModalities rfl
  obtain ⟨-, herror, -, hentries⟩ := (registration_stops_at_first_defect r mixedRows).1 rfl
  obtain ⟨hok, -⟩ := (registration_stops_at_first_defect r (mixedRows.take 2)).1 rfl
  refine ⟨rfl, (herror _).mpr ⟨_, _, [rowFor "A" [.text]], rfl, hadmits, hdeclined⟩, ?_,
    (hok 2).mpr ⟨hadmits, rfl⟩, (registration_stops_at_first_defect r.freeze mixedRows).2 rfl⟩
  rw [hentries _ _ [rowFor "A" [.text]] _ rfl hadmits hdeclined]
  rfl

end Registry

end ModelRegistry
