import Mathlib.Data.List.Induction
import ModelRegistry.Config.Mapping

/-!
# ModelRegistry.Proofs.Config.Mapping

Where the keys of a class mapping lead after any number of edits. Every insertion
makes an object of its own, so an object is known by the place of its insertion
(`insertions`), and what became of it can be read off the edits: it is still
mapped, or an edit has taken it off its architecture (`Taken`).

An object can be taken off in two ways, and they differ in what becomes of its
aliases. Removing an architecture takes back the aliases of its object. Inserting
another class under the architecture leaves them, so that an alias can lead to an
object that no architecture has any more; `dangles_iff_replaced` says that this is
the only way to such an alias, and `alias_of_replaced_class` shows one.
-/

namespace ModelRegistry

namespace ClassMapping

/-! ## Edits -/

/-- What can be done to a mapping. Cloning is no edit: a clone is the mapping that it was taken
from, with the same edits behind it. -/
inductive Edit where
  | insert (architecture : String) (c : ConfigClass)
  | remove (architecture : String)

/-- The architecture under which an edit works. -/
def Edit.architecture : Edit → String
  | .insert architecture _ => architecture
  | .remove architecture => architecture

/-- The mapping after an edit. -/
def edit (m : ClassMapping) : Edit → ClassMapping
  | .insert architecture c => m.insert architecture c
  | .remove architecture => m.remove architecture

/-- The mapping that some edits make of an empty one. -/
def ofEdits (edits : List Edit) : ClassMapping := edits.foldl edit empty

/-- The inserted classes, each with its architecture. The place of an insertion is the serial
number of the object that it made. -/
def insertions : List Edit → List (String × ConfigClass)
  | [] => []
  | .insert architecture c :: rest => (architecture, c) :: insertions rest
  | .remove _ :: rest => insertions rest

/-- The object was made by an insertion under this architecture. -/
def InsertedAs (edits : List Edit) (architecture : String) (c : Shared ConfigClass) : Prop :=
  (insertions edits)[c.serial]? = some (architecture, c.value)

/-- The edit took the object off its architecture. -/
def Taken (edits : List Edit) (e : Edit) (c : Shared ConfigClass) : Prop :=
  ∃ before after, edits = before ++ e :: after ∧ (ofEdits before).get? e.architecture = some c

/-- Another class was inserted under the architecture of the object. -/
def Replaced (edits : List Edit) (c : Shared ConfigClass) : Prop :=
  ∃ architecture k, Taken edits (.insert architecture k) c

/-- The architecture of the object was removed. -/
def Removed (edits : List Edit) (c : Shared ConfigClass) : Prop :=
  ∃ architecture, Taken edits (.remove architecture) c

variable {m : ClassMapping} {edits : List Edit} {e last : Edit} {c k : Shared ConfigClass}
  {architecture id modelType : String}

@[simp] theorem ofEdits_concat : ofEdits (edits ++ [last]) = (ofEdits edits).edit last := by
  simp [ofEdits]

theorem insertions_append (edits more : List Edit) :
    insertions (edits ++ more) = insertions edits ++ insertions more := by
  induction edits with
  | nil => rfl
  | cons e rest ih =>
      cases e with
      | insert architecture c => simp [insertions, ih]
      | remove architecture => simp [insertions, ih]

/-- An edit takes off what is mapped when its turn comes. -/
theorem taken_concat_iff :
    Taken (edits ++ [last]) e c ↔
      Taken edits e c ∨ e = last ∧ (ofEdits edits).get? e.architecture = some c := by
  constructor
  · intro h
    obtain ⟨before, after, hsplit, hget⟩ := h
    rcases List.eq_nil_or_concat after with rfl | ⟨after, final, rfl⟩
    · obtain ⟨rfl, hlast⟩ := List.append_inj' hsplit rfl
      exact .inr ⟨(List.cons.inj hlast).1.symm, hget⟩
    · rw [List.concat_eq_append, ← List.cons_append, ← List.append_assoc] at hsplit
      exact .inl ⟨before, after, (List.append_inj' hsplit rfl).1, hget⟩
  · intro h
    rcases h with ⟨before, after, rfl, hget⟩ | ⟨rfl, hget⟩
    · exact ⟨before, after ++ [last], by simp, hget⟩
    · exact ⟨edits, [], rfl, hget⟩

theorem InsertedAs.concat (h : InsertedAs edits architecture c) (last : Edit) :
    InsertedAs (edits ++ [last]) architecture c := by
  rw [InsertedAs, insertions_append, List.getElem?_append_left]
  · exact h
  · obtain ⟨hlt, -⟩ := List.getElem?_eq_some_iff.mp h
    exact hlt

theorem InsertedAs.lt_length (h : InsertedAs edits architecture c) :
    c.serial < (insertions edits).length := by
  obtain ⟨hlt, -⟩ := List.getElem?_eq_some_iff.mp h
  exact hlt

/-- An object was inserted once, under one architecture. -/
theorem InsertedAs.unique (h : InsertedAs edits architecture c) (h' : InsertedAs edits id k)
    (hserial : c.serial = k.serial) : architecture = id ∧ c = k := by
  rw [InsertedAs, hserial, h'] at h
  obtain ⟨rfl, hvalue⟩ := Prod.mk.inj (Option.some.inj h)
  cases c
  cases k
  simp_all

/-! ## Single edits -/

theorem get?_insert (kc : ConfigClass) :
    (m.insert architecture kc).get? id =
      if id = architecture then some ⟨m.issued, kc⟩ else m.get? id :=
  Table.lookup_put _ _ _ _

theorem get?_remove :
    (m.remove architecture).get? id = if id = architecture then none else m.get? id := by
  rw [remove]
  cases hget : m.get? architecture with
  | none =>
      by_cases hid : id = architecture
      · rw [if_pos hid, hid]
        exact hget
      · rw [if_neg hid]
  | some c => exact Table.lookup_erase _ _ _

/-- The object that an edit maps, or what was mapped before. -/
theorem get?_edit (h : (m.edit e).get? id = some c) :
    m.get? id = some c ∧ id ≠ e.architecture ∨
      ∃ kc, e = .insert id kc ∧ c = ⟨m.issued, kc⟩ := by
  cases e with
  | insert architecture kc =>
      rw [edit, get?_insert] at h
      split at h
      · next hid => exact .inr ⟨kc, by rw [hid], (Option.some.inj h).symm⟩
      · next hid => exact .inl ⟨h, hid⟩
  | remove architecture =>
      rw [edit, get?_remove] at h
      split at h
      · cases h
      · next hid => exact .inl ⟨h, hid⟩

/-- A key was there before, or it is one of the model types of the object that claims. -/
theorem mem_claim {aliases : Table String (Shared ConfigClass)}
    (h : (modelType, c) ∈ claim k aliases) :
    (modelType, c) ∈ aliases ∨ c = k ∧ modelType ∈ k.value.modelTypes := by
  rw [claim] at h
  generalize k.value.modelTypes = modelTypes at h ⊢
  induction modelTypes generalizing aliases with
  | nil => exact .inl h
  | cons first rest ih =>
      rcases ih h with hbefore | ⟨hc, hmem⟩
      · simp only [Table.putNew] at hbefore
        split at hbefore
        · exact .inl hbefore
        · rcases List.mem_cons.mp hbefore with hnew | hold
          · obtain ⟨rfl, rfl⟩ := Prod.mk.inj hnew
            exact .inr ⟨rfl, List.mem_cons_self⟩
          · exact .inl hold
      · exact .inr ⟨hc, List.mem_cons_of_mem _ hmem⟩

theorem mem_byModelType_of_alias? (h : m.alias? modelType = some c) :
    (modelType, c) ∈ m.byModelType := by
  obtain ⟨before, after, hsplit, -⟩ := List.lookup_eq_some_iff.mp h
  rw [hsplit]
  exact List.mem_append_right _ List.mem_cons_self

/-- An alias that an edit leaves was there before, and not of an object that it removed, or it is
one of the object that it inserted. -/
theorem mem_byModelType_edit (h : (modelType, c) ∈ (m.edit e).byModelType) :
    (modelType, c) ∈ m.byModelType ∧
        (∀ architecture, e = .remove architecture → m.get? architecture ≠ some c) ∨
      ∃ id kc, e = .insert id kc ∧ c = ⟨m.issued, kc⟩ ∧ modelType ∈ kc.modelTypes := by
  cases e with
  | insert architecture kc =>
      rcases mem_claim h with hbefore | ⟨rfl, hmem⟩
      · exact .inl ⟨hbefore, by simp⟩
      · exact .inr ⟨architecture, kc, rfl, rfl, hmem⟩
  | remove architecture =>
      rw [edit, remove] at h
      cases hget : m.get? architecture with
      | none =>
          rw [hget] at h
          exact .inl ⟨h, by simp [hget]⟩
      | some k =>
          rw [hget] at h
          obtain ⟨hbefore, hserial⟩ := List.mem_filter.mp h
          refine .inl ⟨hbefore, ?_⟩
          intro id hid hsame
          obtain rfl := Edit.remove.inj hid
          rw [hget] at hsame
          obtain rfl := Option.some.inj hsame
          simp at hserial

/-! ## Runs of edits -/

/-- What the keys of a mapping say about the edits behind it. -/
structure Traced (edits : List Edit) (m : ClassMapping) : Prop where
  issued : m.issued = (insertions edits).length
  mapped : ∀ {id c}, m.get? id = some c → InsertedAs edits id c
  aliased : ∀ {modelType c}, (modelType, c) ∈ m.byModelType →
    modelType ∈ c.value.modelTypes ∧ ∃ id, InsertedAs edits id c

theorem issued_edit (h : m.issued = (insertions edits).length) :
    (m.edit last).issued = (insertions (edits ++ [last])).length := by
  rw [insertions_append, List.length_append, ← h]
  cases last with
  | insert architecture c => rfl
  | remove architecture =>
      rw [edit, remove]
      cases m.get? architecture <;> rfl

/-- The object of an insertion is in the place of that insertion. -/
theorem insertedAs_concat (h : m.issued = (insertions edits).length) (kc : ConfigClass) :
    InsertedAs (edits ++ [.insert architecture kc]) architecture ⟨m.issued, kc⟩ := by
  rw [InsertedAs, insertions_append, h]
  exact List.getElem?_concat_length

theorem Traced.edit (h : Traced edits m) (last : Edit) :
    Traced (edits ++ [last]) (m.edit last) where
  issued := issued_edit h.issued
  mapped hget := by
    rcases get?_edit hget with ⟨hbefore, -⟩ | ⟨kc, rfl, rfl⟩
    · exact (h.mapped hbefore).concat last
    · exact insertedAs_concat h.issued kc
  aliased hmem := by
    rcases mem_byModelType_edit hmem with ⟨hbefore, -⟩ | ⟨id, kc, rfl, rfl, hlisted⟩
    · obtain ⟨hlisted, id, hid⟩ := h.aliased hbefore
      exact ⟨hlisted, id, hid.concat last⟩
    · exact ⟨hlisted, id, insertedAs_concat h.issued kc⟩

/-- A mapping is traced by its edits. -/
theorem traced_ofEdits (edits : List Edit) : Traced edits (ofEdits edits) := by
  induction edits using List.reverseRecOn with
  | nil => exact ⟨rfl, by simp [ofEdits, get?, empty], by simp [ofEdits, empty]⟩
  | append_singleton edits last ih =>
      rw [ofEdits_concat]
      exact ih.edit last

/-- An object that was taken off was inserted before. -/
theorem Taken.insertedAs (h : Taken edits e c) : InsertedAs edits e.architecture c := by
  obtain ⟨before, after, rfl, hget⟩ := h
  have hbefore : InsertedAs before e.architecture c := (traced_ofEdits before).mapped hget
  rw [InsertedAs, insertions_append, List.getElem?_append_left hbefore.lt_length]
  exact hbefore

/-- No architecture leads to an object that was taken off. -/
theorem get?_ne_of_taken (h : Taken edits e c) (id : String) :
    (ofEdits edits).get? id ≠ some c := by
  induction edits using List.reverseRecOn with
  | nil =>
      obtain ⟨before, after, hsplit, -⟩ := h
      simp at hsplit
  | append_singleton edits last ih =>
      have htraced : Traced edits (ofEdits edits) := traced_ofEdits edits
      intro hget
      rw [ofEdits_concat] at hget
      rcases get?_edit hget with ⟨hbefore, hid⟩ | ⟨kc, -, rfl⟩
      · rcases taken_concat_iff.mp h with hearlier | ⟨rfl, hnow⟩
        · exact ih hearlier hbefore
        · -- The object is under one architecture only, and that is the one of the edit.
          exact hid ((htraced.mapped hbefore).unique (htraced.mapped hnow) rfl).1
      · -- The object of the last edit is new, so that nothing has taken it off.
        have hserial : InsertedAs edits e.architecture ⟨(ofEdits edits).issued, kc⟩ := by
          rcases taken_concat_iff.mp h with hearlier | ⟨rfl, hnow⟩
          · exact hearlier.insertedAs
          · exact htraced.mapped hnow
        exact absurd htraced.issued (Nat.ne_of_lt hserial.lt_length)

/-- No alias leads to an object whose architecture was removed. -/
theorem not_mem_of_removed (h : Removed edits c) (modelType : String) :
    (modelType, c) ∉ (ofEdits edits).byModelType := by
  obtain ⟨architecture, h⟩ := h
  induction edits using List.reverseRecOn with
  | nil =>
      obtain ⟨before, after, hsplit, -⟩ := h
      simp at hsplit
  | append_singleton edits last ih =>
      have htraced : Traced edits (ofEdits edits) := traced_ofEdits edits
      intro hmem
      rw [ofEdits_concat] at hmem
      rcases mem_byModelType_edit hmem with ⟨hbefore, hkept⟩ | ⟨id, kc, rfl, rfl, -⟩
      · rcases taken_concat_iff.mp h with hearlier | ⟨rfl, hnow⟩
        · exact ih hearlier hbefore
        · exact hkept architecture rfl hnow
      · rcases taken_concat_iff.mp h with hearlier | ⟨hinsert, -⟩
        · exact absurd htraced.issued (Nat.ne_of_lt hearlier.insertedAs.lt_length)
        · cases hinsert

/-- An alias leads to an object that is mapped or was replaced. -/
theorem mapped_or_replaced (h : (modelType, c) ∈ (ofEdits edits).byModelType) :
    (∃ id, (ofEdits edits).get? id = some c) ∨ Replaced edits c := by
  induction edits using List.reverseRecOn with
  | nil => cases h
  | append_singleton edits last ih =>
      rw [ofEdits_concat] at h ⊢
      rcases mem_byModelType_edit h with ⟨hbefore, hkept⟩ | ⟨id, kc, rfl, rfl, -⟩
      · rcases ih hbefore with ⟨id, hid⟩ | ⟨architecture, kc, hreplaced⟩
        · cases last with
          | insert architecture kc =>
              by_cases hsame : id = architecture
              · subst hsame
                exact .inr ⟨id, kc, taken_concat_iff.mpr (.inr ⟨rfl, hid⟩)⟩
              · refine .inl ⟨id, ?_⟩
                rw [edit, get?_insert, if_neg hsame]
                exact hid
          | remove architecture =>
              refine .inl ⟨id, ?_⟩
              have hother : id ≠ architecture := fun hsame => hkept architecture rfl (hsame ▸ hid)
              rw [edit, get?_remove, if_neg hother]
              exact hid
        · exact .inr ⟨architecture, kc, taken_concat_iff.mpr (.inl hreplaced)⟩
      · refine .inl ⟨id, ?_⟩
        rw [edit, get?_insert, if_pos rfl]

/-! ## Dangling aliases -/

/-- **An alias dangles only if its class was replaced**: after any edits, the object to which a
model type leads lists that model type, and it is mapped to an architecture unless another class
was inserted under its architecture. No key ever leads to an object whose architecture was
removed, and no architecture to one that was replaced. -/
theorem dangles_iff_replaced (edits : List Edit) :
    (∀ modelType c, (ofEdits edits).alias? modelType = some c →
      modelType ∈ c.value.modelTypes ∧
      ((∃ id, (ofEdits edits).get? id = some c) ↔ ¬ Replaced edits c)) ∧
    (∀ c, Removed edits c →
      ∀ key, (ofEdits edits).get? key ≠ some c ∧ (ofEdits edits).alias? key ≠ some c) ∧
    ∀ c, Replaced edits c → ∀ id, (ofEdits edits).get? id ≠ some c := by
  refine ⟨?_, ?_, ?_⟩
  · intro modelType c halias
    have hmem := mem_byModelType_of_alias? halias
    obtain ⟨hlisted, -⟩ := (traced_ofEdits edits).aliased hmem
    refine ⟨hlisted, ?_, ?_⟩
    · rintro ⟨id, hget⟩ ⟨architecture, kc, htaken⟩
      exact get?_ne_of_taken htaken id hget
    · intro hkept
      exact (mapped_or_replaced hmem).resolve_right hkept
  · intro c hremoved key
    refine ⟨?_, fun halias => not_mem_of_removed hremoved key (mem_byModelType_of_alias? halias)⟩
    obtain ⟨architecture, htaken⟩ := hremoved
    exact get?_ne_of_taken htaken key
  · intro c hreplaced id
    obtain ⟨architecture, kc, htaken⟩ := hreplaced
    exact get?_ne_of_taken htaken id

/-- A class that answers to a model type. -/
def claiming (name : String) : ConfigClass := (ConfigClass.empty name).withModelType "m"

/-- A class with a model type, and another class without any under the same architecture. -/
def replacing : List Edit := [.insert "A" (claiming "First"), .insert "A" (.empty "Second")]

/-- The model type leads to the first class, to which no architecture leads any more. -/
theorem alias_of_replaced_class :
    (ofEdits replacing).alias? "m" = some ⟨0, claiming "First"⟩ ∧
      ∀ id, (ofEdits replacing).get? id ≠ some ⟨0, claiming "First"⟩ := by
  refine ⟨rfl, ?_⟩
  have htaken : Taken replacing (.insert "A" (.empty "Second")) ⟨0, claiming "First"⟩ :=
    ⟨[.insert "A" (claiming "First")], [], rfl, rfl⟩
  exact get?_ne_of_taken htaken

/-- Two classes with one model type, the second of which is removed again. -/
def contesting : List Edit :=
  [.insert "A" (claiming "First"), .insert "B" (claiming "Second"), .remove "B"]

theorem contested_alias_is_kept :
    (ofEdits contesting).alias? "m" = some ⟨0, claiming "First"⟩ ∧
      ¬ Replaced contesting ⟨0, claiming "First"⟩ ∧
      ∀ key, (ofEdits contesting).alias? key ≠ some ⟨1, claiming "Second"⟩ := by
  obtain ⟨haliases, hremoved, -⟩ := dangles_iff_replaced contesting
  obtain ⟨-, hmapped⟩ := haliases "m" _ rfl
  refine ⟨rfl, hmapped.mp ⟨"A", rfl⟩, ?_⟩
  intro key
  have hsecond : Removed contesting ⟨1, claiming "Second"⟩ :=
    ⟨"B", [.insert "A" (claiming "First"), .insert "B" (claiming "Second")], [], rfl, rfl⟩
  exact (hremoved _ hsecond key).2

end ClassMapping

end ModelRegistry
