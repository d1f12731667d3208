import ModelRegistry.Proofs.Config.Selection

/-!
# ModelRegistry.Proofs.Config.Identity

What the identity of a class does not change. A schema directory numbers the
classes in the order in which it reads them, so that the number of a class tells
what was looked up before it. The class itself does not: where the answers of a
source are `Fixed`, it has the same class for an architecture whatever was looked
up (`Fixed.classFor_afterLookups`), and the choice among the tiers is the same but
for the number (`content_select_congr`).
-/

namespace ModelRegistry

/-! ## Sources -/

namespace ClassSource

variable {trees : Files → Prop} {s : ClassSource} {asked files files' : Files} {id : String}

theorem classFor_eq_map (s : ClassSource) (files : Files) (id : String) :
    s.classFor files id = (s.answer files id).map (Option.map (·.value)) := by
  rw [classFor]
  cases s.answer files id <;> rfl

theorem Fixed.classFor_eq (h : Fixed trees s) (hfiles : trees files) (hfiles' : trees files')
    (id : String) : s.classFor files' id = s.classFor files id := by
  rw [classFor_eq_map, classFor_eq_map, h files' files hfiles' hfiles]

/-- Directories that agree on an architecture have the same class for it. -/
theorem classFor_of_sameAt {d e : SchemaDirectory} (h : d.SameAt id e) :
    (directory e).classFor files id = (directory d).classFor files id := by
  rw [classFor_eq_map, classFor_eq_map, answer, answer]
  cases hword : Text.isWord id.toList with
  | false =>
      rw [SchemaDirectory.answer_of_not_isWord hword, SchemaDirectory.answer_of_not_isWord hword]
  | true =>
      cases hcached : d.cache.lookup id with
      | some c =>
          rw [SchemaDirectory.answer_of_cached hword hcached,
            SchemaDirectory.answer_of_cached hword (h.cached.trans hcached)]
      | none =>
          rw [SchemaDirectory.answer_of_uncached hword hcached,
            SchemaDirectory.answer_of_uncached hword (h.cached.trans hcached),
            SchemaDirectory.load_eq_of_path h.path]
          cases d.load files id with
          | error fault => rfl
          | ok c => cases c <;> rfl

/-- A look-up does not change which class the source has for an architecture, be it the one that
was looked up or another. -/
theorem Fixed.classFor_afterLookup (h : Fixed trees s) (hasked : trees asked)
    (hfiles : trees files) (id other : String) :
    (s.afterLookup asked other).classFor files id = s.classFor files id := by
  by_cases hid : id = other
  · subst hid
    rw [classFor_eq_map, classFor_eq_map, (h.settled hasked id).answer_eq hfiles,
      h asked files hasked hfiles]
  · cases s with
    | static s => rfl
    | directory d =>
        exact classFor_of_sameAt
          ⟨SchemaDirectory.path_afterLookup, SchemaDirectory.cached_afterLookup_of_ne hid⟩

theorem Fixed.classFor_afterLookups (h : Fixed trees s) {looks : List (Files × String)}
    (hlooks : ∀ look ∈ looks, trees look.1) (hfiles : trees files) (id : String) :
    (s.afterLookups looks).classFor files id = s.classFor files id := by
  have hkept := kept_afterLookups
    (fun t => Fixed trees t ∧ t.classFor files id = s.classFor files id) ⟨h, rfl⟩
    (fun t asked other hasked ht =>
      ⟨ht.1.afterLookup asked other, (ht.1.classFor_afterLookup hasked hfiles id other).trans ht.2⟩)
    hlooks
  exact hkept.2

end ClassSource

/-! ## The choice among the tiers -/

/-- The selection with the class itself in place of the object that is handed out. -/
def Selection.content (s : Selection) : Option (Strategy × ConfigClass) × List Attempt :=
  (s.chosen.map fun pick => (pick.1, pick.2.value), s.attempts)

/-- The choice depends on the identity of what the source answers in nothing but the identity of
what is chosen. -/
theorem ClassMapping.content_select_congr {mapping : ClassMapping}
    {source other : String → SourceAnswer (Shared ConfigClass)} {architecture : String}
    (h : (source architecture).map (Option.map (·.value)) =
      (other architecture).map (Option.map (·.value))) (modelType : Option String) :
    (mapping.select source architecture modelType).content =
      (mapping.select other architecture modelType).content := by
  cases hget : mapping.get? architecture with
  | some c => rw [select_of_get? hget, select_of_get? hget]
  | none =>
      rw [select, select, hget]
      cases hsource : source architecture with
      | error e =>
          cases hother : other architecture with
          | error e' => simp_all [Except.map]
          | ok c' => simp_all [Except.map]
      | ok c =>
          cases hother : other architecture with
          | error e' => simp_all [Except.map]
          | ok c' => cases c <;> cases c' <;> simp_all [Except.map, Selection.content]

end ModelRegistry
