import ModelRegistry.Architecture.Registry

/-!
# ModelRegistry.Proofs.Architecture.Registry

The look-ups of the registry: which entry answers for an id, and which for a list
of ids that a checkpoint declares. Then what registering and freezing do to them:
a look-up that found an entry finds it ever after.
-/

namespace ModelRegistry

namespace Registry

variable {r : Registry} {id : String} {ids : List String} {a : Architecture}

/-- The look-up by id finds what a search of the entries finds. -/
theorem find?_eq_find?_entries (r : Registry) (id : String) :
    r.find? id = r.entries.find? (·.id == id) :=
  r.table.lookup_byId id

theorem id_of_find? (h : r.find? id = some a) : a.id = id := by
  rw [find?_eq_find?_entries] at h
  simpa using List.find?_some h

theorem contains_eq_false_iff : r.contains id = false ↔ r.find? id = none := by
  rw [contains, Option.isSome_eq_false_iff, Option.isNone_iff_eq_none]

theorem contains_iff_mem_ids : r.contains id = true ↔ id ∈ r.entries.map (·.id) := by
  rw [contains, Option.isSome_iff_ne_none, ne_eq, find?, ArchitectureTable.find?_eq_none_iff,
    Classical.not_not, entries]

theorem contains_eq_false_iff_not_mem_ids :
    r.contains id = false ↔ id ∉ r.entries.map (·.id) := by
  rw [← contains_iff_mem_ids, Bool.not_eq_true]

/-- No two entries have the same id. -/
theorem nodup_ids (r : Registry) : (r.entries.map (·.id)).Nodup :=
  r.table.distinct

theorem contains_of_find? (h : r.find? id = some a) : r.contains id = true := by
  rw [contains, h]
  rfl

theorem exists_find?_of_contains (h : r.contains id = true) : ∃ a, r.find? id = some a :=
  Option.isSome_iff_exists.mp h

theorem resolve_of_find? (h : r.find? id = some a) : r.resolve id = .ok a := by
  rw [resolve, h]

theorem resolve_of_contains_eq_false (h : r.contains id = false) :
    r.resolve id = .error (.unregisteredArchitecture id) := by
  rw [resolve, contains_eq_false_iff.mp h]

/-- An entry that is found was registered after some entries and before the others. -/
theorem entries_of_find? (h : r.find? id = some a) :
    ∃ before after, r.entries = before ++ a :: after := by
  rw [find?_eq_find?_entries] at h
  exact List.append_of_mem (List.mem_of_find?_eq_some h)

/-- The entry under the first of the ids that is registered. -/
structure AnswersFor (r : Registry) (ids : List String) (a : Architecture) : Prop where
  first : ∃ before after, ids = before ++ a.id :: after ∧ ∀ id ∈ before, r.contains id = false
  found : r.find? a.id = some a

theorem resolveFirst_eq_ok_iff_findSome? :
    r.resolveFirst ids = .ok a ↔ ids.findSome? r.find? = some a := by
  cases ids with
  | nil => simp [resolveFirst]
  | cons id rest =>
      rw [resolveFirst, List.isEmpty_cons, if_neg Bool.false_ne_true]
      cases (id :: rest).findSome? r.find? with
      | none => simp
      | some b => simp

theorem resolveFirst_eq_ok_iff : r.resolveFirst ids = .ok a ↔ r.AnswersFor ids a := by
  rw [resolveFirst_eq_ok_iff_findSome?, List.findSome?_eq_some_iff]
  constructor
  · intro hfind
    obtain ⟨before, id, after, hsplit, hid, hbefore⟩ := hfind
    obtain rfl := id_of_find? hid
    exact ⟨⟨before, after, hsplit, fun id hmem => contains_eq_false_iff.mpr (hbefore id hmem)⟩,
      hid⟩
  · intro hanswers
    obtain ⟨⟨before, after, hsplit, hbefore⟩, hfound⟩ := hanswers
    exact ⟨before, a.id, after, hsplit, hfound,
      fun id hmem => contains_eq_false_iff.mp (hbefore id hmem)⟩

/-- If none of some ids is registered, the error names them all. -/
theorem resolveFirst_eq_error_iff {e : RegistryError} (hids : ids ≠ []) :
    r.resolveFirst ids = .error e ↔
      (∀ id ∈ ids, r.contains id = false) ∧
        e = .unregisteredArchitecture (", ".intercalate ids) := by
  rw [resolveFirst, if_neg (by simpa using hids)]
  cases hfirst : ids.findSome? r.find? with
  | none =>
      rw [List.findSome?_eq_none_iff] at hfirst
      simp only [Except.error.injEq, eq_comm (b := e)]
      exact ⟨fun he => ⟨fun id hid => contains_eq_false_iff.mpr (hfirst id hid), he⟩, And.right⟩
  | some a =>
      obtain ⟨id, hid, ha⟩ := List.exists_of_findSome?_eq_some hfirst
      simp only [reduceCtorEq, false_iff, not_and]
      intro hnone
      rw [contains_eq_false_iff.mp (hnone id hid)] at ha
      cases ha

theorem exists_answersFor (h : id ∈ ids) (hreg : r.contains id = true) :
    ∃ a, r.AnswersFor ids a := by
  have hsome : (ids.findSome? r.find?).isSome := List.findSome?_isSome_iff.mpr ⟨id, h, hreg⟩
  obtain ⟨a, ha⟩ := Option.isSome_iff_exists.mp hsome
  exact ⟨a, resolveFirst_eq_ok_iff.mp (resolveFirst_eq_ok_iff_findSome?.mpr ha)⟩

/-- The id that counts among those declared: the first one that is registered, and if none is, the
first one. -/
inductive Prefers (r : Registry) : List String → String → Prop where
  | registered {before after : List String} {id : String} :
      (∀ other ∈ before, r.contains other = false) → r.contains id = true →
      Prefers r (before ++ id :: after) id
  | unregistered {id : String} {rest : List String} :
      (∀ other ∈ id :: rest, r.contains other = false) → Prefers r (id :: rest) id

/-- Which id counts depends only on what is registered, not on what is declared with it. -/
theorem Prefers.congr {r' : Registry} (h : r.Prefers ids id)
    (hsame : ∀ other, r'.contains other = r.contains other) : r'.Prefers ids id := by
  cases h with
  | registered hbefore hid =>
      exact .registered (fun other hother => (hsame other).trans (hbefore other hother))
        ((hsame _).trans hid)
  | unregistered hnone =>
      exact .unregistered fun other hother => (hsame other).trans (hnone other hother)

/-! ## Changes -/

/-- Until it is frozen, a registry answers from the table that it fills. -/
theorem table_of_open (h : r.frozen = false) : r.table = r.pending := by
  rw [frozen, Option.isSome_eq_false_iff, Option.isNone_iff_eq_none] at h
  rw [table, h, Option.getD_none]

theorem register_of_frozen (h : r.frozen = true) (a : Architecture) :
    r.register a = .error (.registryFrozen a.id) := by
  rw [register, if_pos h]

theorem register_of_contains (hopen : r.frozen = false) (h : r.contains a.id = true) :
    r.register a = .error (.duplicateArchitecture a.id) := by
  rw [contains, find?, table_of_open hopen, Option.isSome_iff_ne_none] at h
  rw [register, if_neg (by simp [hopen])]
  split
  · rfl
  · next hnew => exact absurd hnew h

/-- A new id is taken, and its entry comes last. -/
theorem exists_register_of_new (hopen : r.frozen = false) (h : r.contains a.id = false) :
    ∃ r', r.register a = .ok r' ∧ r'.entries = r.entries ++ [a] ∧ r'.frozen = false := by
  rw [contains_eq_false_iff, find?, table_of_open hopen] at h
  have hregister : r.register a = .ok { r with pending := r.pending.insert a h } := by
    rw [register, if_neg (by simp [hopen])]
    split
    · next hfound => simp [h] at hfound
    · rfl
  refine ⟨_, hregister, ?_, hopen⟩
  rw [entries, entries, table_of_open hopen, table_of_open (by exact hopen)]
  rfl

/-- A registration succeeds in an open registry that does not have its id, and adds its entry at
the end. -/
theorem register_cases (r : Registry) (a : Architecture) :
    (r.frozen = true ∧ r.register a = .error (.registryFrozen a.id)) ∨
    (r.frozen = false ∧ r.contains a.id = true ∧
      r.register a = .error (.duplicateArchitecture a.id)) ∨
    (r.frozen = false ∧ r.contains a.id = false ∧
      ∃ r', r.register a = .ok r' ∧ r'.entries = r.entries ++ [a] ∧ r'.frozen = false) := by
  cases hfrozen : r.frozen with
  | true => exact .inl ⟨rfl, register_of_frozen hfrozen a⟩
  | false =>
      cases hcontains : r.contains a.id with
      | true => exact .inr (.inl ⟨rfl, rfl, register_of_contains hfrozen hcontains⟩)
      | false => exact .inr (.inr ⟨rfl, rfl, exists_register_of_new hfrozen hcontains⟩)

/-- Freezing moves the table that answers, and leaves it as it is. -/
@[simp] theorem table_freeze (r : Registry) : r.freeze.table = r.table := by
  rw [freeze]
  split
  · rfl
  · next hopen => rw [table, table, hopen, Option.getD_some, Option.getD_none]

@[simp] theorem frozen_freeze (r : Registry) : r.freeze.frozen = true := by
  rw [freeze]
  split
  · next hpublished => rw [frozen, hpublished, Option.isSome_some]
  · rfl

theorem freeze_of_frozen (h : r.frozen = true) : r.freeze = r := by
  obtain ⟨t, ht⟩ := Option.isSome_iff_exists.mp h
  simp only [freeze, ht]

@[simp] theorem entries_freeze (r : Registry) : r.freeze.entries = r.entries := by
  rw [entries, table_freeze, entries]

@[simp] theorem find?_freeze (r : Registry) (id : String) : r.freeze.find? id = r.find? id := by
  rw [find?, table_freeze, find?]

end Registry

end ModelRegistry
