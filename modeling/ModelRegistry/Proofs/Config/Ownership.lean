import ModelRegistry.Proofs.Config.Mapping
import ModelRegistry.Proofs.Table

/-!
# ModelRegistry.Proofs.Config.Ownership

Who owns the keys of a class mapping, said of the edits alone. An architecture
belongs to the object of its last insertion, unless it was removed since
(`LastInserted`). A model type belongs to the object of the first insertion that
lists it since it was last free (`Owns`), and it becomes free again only when a
removal returns that very object (`Freed`). Neither definition looks at a mapping;
`get?_eq_some_iff` and `alias?_eq_some_iff` say that mappings follow them.

Objects are told apart by their insertions, so that two equal classes are two
owners. Mappings can be cloned; a clone has the edits of the mapping that it was
taken from behind it, and goes its own way from there (`Op`).
-/

namespace ModelRegistry

namespace ClassMapping

/-! ## Owners -/

/-- The edit inserts a class that lists the model type. -/
def Edit.Lists (modelType : String) : Edit → Prop
  | .insert _ kc => modelType ∈ kc.modelTypes
  | .remove _ => False

/-- The object that an insertion makes after some edits. -/
def made (edits : List Edit) (kc : ConfigClass) : Shared ConfigClass :=
  ⟨(insertions edits).length, kc⟩

/-- The object was made by the last insertion under the architecture, which was not removed
since. -/
def LastInserted (edits : List Edit) (id : String) (c : Shared ConfigClass) : Prop :=
  ∃ before kc after, edits = before ++ .insert id kc :: after ∧ c = made before kc ∧
    ∀ e ∈ after, e.architecture ≠ id

/-- A removal returned the object. -/
def Returned (edits : List Edit) (c : Shared ConfigClass) : Prop :=
  ∃ before id after, edits = before ++ .remove id :: after ∧ LastInserted before id c

/-- The object was made by the first insertion after `freed` that lists the model type, and no
removal has returned it. -/
def FirstSince (modelType : String) (freed edits : List Edit) (c : Shared ConfigClass) : Prop :=
  ∃ before id kc after, edits = freed ++ before ++ .insert id kc :: after ∧
    c = made (freed ++ before) kc ∧ (∀ e ∈ before, ¬ e.Lists modelType) ∧
    modelType ∈ kc.modelTypes ∧ ¬ Returned edits c

/-- The model type has become free by the last of the edits: there is none, or it is a removal
that returned the object to which the model type belonged. -/
inductive Freed (modelType : String) : List Edit → Prop where
  | start : Freed modelType []
  | returned {freed edits : List Edit} {id : String} {c : Shared ConfigClass}
      (hfreed : Freed modelType freed) (hfirst : FirstSince modelType freed edits c)
      (hlast : LastInserted edits id c) : Freed modelType (edits ++ [.remove id])

/-- The model type belongs to the object, which was the first to list it since it was last
free. -/
def Owns (modelType : String) (edits : List Edit) (c : Shared ConfigClass) : Prop :=
  ∃ freed, Freed modelType freed ∧ FirstSince modelType freed edits c

/-- No class has listed the model type since it was last free. -/
def Vacant (modelType : String) (edits : List Edit) : Prop :=
  ∃ freed before, edits = freed ++ before ∧ Freed modelType freed ∧
    ∀ e ∈ before, ¬ e.Lists modelType

variable {m : ClassMapping} {edits freed : List Edit} {last : Edit} {c k : Shared ConfigClass}
  {architecture id modelType : String} {kc : ConfigClass}

/-! ## Architectures -/

theorem not_lastInserted_nil : ¬ LastInserted [] id c := by
  rintro ⟨before, kc, after, hsplit, -⟩
  simp at hsplit

theorem lastInserted_concat_iff :
    LastInserted (edits ++ [last]) id c ↔
      LastInserted edits id c ∧ last.architecture ≠ id ∨
        ∃ kc, last = .insert id kc ∧ c = made edits kc := by
  constructor
  · rintro ⟨before, kc, after, hsplit, rfl, hafter⟩
    rcases List.eq_nil_or_concat after with rfl | ⟨after, final, rfl⟩
    · obtain ⟨rfl, hlast⟩ := List.append_inj' hsplit rfl
      exact .inr ⟨kc, (List.cons.inj hlast).1, rfl⟩
    · rw [List.concat_eq_append, ← List.cons_append, ← List.append_assoc] at hsplit
      obtain ⟨rfl, hlast⟩ := List.append_inj' hsplit rfl
      obtain rfl := (List.cons.inj hlast).1
      rw [List.concat_eq_append, List.forall_mem_append] at hafter
      exact .inl ⟨⟨before, kc, after, rfl, rfl, hafter.1⟩, hafter.2 last List.mem_cons_self⟩
  · rintro (⟨⟨before, kc, after, rfl, rfl, hafter⟩, hother⟩ | ⟨kc, rfl, rfl⟩)
    · refine ⟨before, kc, after ++ [last], by simp, rfl, ?_⟩
      rw [List.forall_mem_append]
      exact ⟨hafter, by simpa using hother⟩
    · exact ⟨edits, kc, [], rfl, rfl, by simp⟩

/-- An architecture leads to the object of its last insertion. -/
theorem get?_eq_some_iff : (ofEdits edits).get? id = some c ↔ LastInserted edits id c := by
  induction edits using List.reverseRecOn with
  | nil => simp [not_lastInserted_nil, ofEdits, get?, empty]
  | append_singleton edits last ih =>
      have hissued : (ofEdits edits).issued = (insertions edits).length :=
        (traced_ofEdits edits).issued
      rw [lastInserted_concat_iff, ofEdits_concat, ← ih]
      cases last with
      | insert architecture kc =>
          rw [edit, get?_insert, hissued]
          by_cases hid : id = architecture
          · subst hid
            simp [Edit.architecture, made, eq_comm]
          · simp [Edit.architecture, hid, Ne.symm hid]
      | remove architecture =>
          rw [edit, get?_remove]
          by_cases hid : id = architecture
          · simp [Edit.architecture, hid]
          · simp [Edit.architecture, hid, Ne.symm hid]

theorem returned_concat_iff :
    Returned (edits ++ [last]) c ↔
      Returned edits c ∨ ∃ id, last = .remove id ∧ LastInserted edits id c := by
  constructor
  · rintro ⟨before, id, after, hsplit, hlast⟩
    rcases List.eq_nil_or_concat after with rfl | ⟨after, final, rfl⟩
    · obtain ⟨rfl, hremove⟩ := List.append_inj' hsplit rfl
      exact .inr ⟨id, (List.cons.inj hremove).1, hlast⟩
    · rw [List.concat_eq_append, ← List.cons_append, ← List.append_assoc] at hsplit
      exact .inl ⟨before, id, after, (List.append_inj' hsplit rfl).1, hlast⟩
  · rintro (⟨before, id, after, rfl, hlast⟩ | ⟨id, rfl, hlast⟩)
    · exact ⟨before, id, after ++ [last], by simp, hlast⟩
    · exact ⟨edits, id, [], rfl, hlast⟩

theorem Returned.removed (h : Returned edits c) : Removed edits c := by
  obtain ⟨before, id, after, rfl, hlast⟩ := h
  exact ⟨id, before, after, rfl, get?_eq_some_iff.mpr hlast⟩

/-- An object that is being made was not returned before. -/
theorem not_returned_made (edits : List Edit) (id : String) (kc : ConfigClass) :
    ¬ Returned (edits ++ [.insert id kc]) (made edits kc) := by
  intro h
  rcases returned_concat_iff.mp h with hbefore | ⟨id, hremove, -⟩
  · obtain ⟨id, htaken⟩ := hbefore.removed
    have hlt : (insertions edits).length < (insertions edits).length := htaken.insertedAs.lt_length
    omega
  · cases hremove

/-! ## Aliases after one edit -/

theorem lookup_claim (c : Shared ConfigClass) (aliases : Table String (Shared ConfigClass))
    (modelType : String) :
    (claim c aliases).lookup modelType =
      if modelType ∈ c.value.modelTypes then some ((aliases.lookup modelType).getD c)
      else aliases.lookup modelType := by
  unfold claim
  generalize c.value.modelTypes = modelTypes
  induction modelTypes generalizing aliases with
  | nil => simp
  | cons first rest ih =>
      rw [List.foldl_cons, ih, Table.lookup_putNew]
      by_cases hfirst : modelType = first
      · subst hfirst
        simp
      · simp [hfirst]

/-- An insertion gives the free model types of its class to its object. -/
theorem alias?_insert :
    (m.insert architecture kc).alias? modelType =
      if modelType ∈ kc.modelTypes then some ((m.alias? modelType).getD ⟨m.issued, kc⟩)
      else m.alias? modelType :=
  lookup_claim _ _ _

theorem nodup_putNew {t : Table String (Shared ConfigClass)} (h : (t.map (·.1)).Nodup)
    (key : String) (c : Shared ConfigClass) : ((t.putNew key c).map (·.1)).Nodup := by
  unfold Table.putNew
  split
  · exact h
  · next hnew =>
      have hkey : t.lookup key = none := by
        simpa only [Bool.not_eq_true, Option.isSome_eq_false_iff, Option.isNone_iff_eq_none]
          using hnew
      rw [List.map_cons]
      exact h.cons (Table.not_mem_keys_of_lookup hkey)

theorem nodup_claim {aliases : Table String (Shared ConfigClass)}
    (h : (aliases.map (·.1)).Nodup) (c : Shared ConfigClass) :
    ((claim c aliases).map (·.1)).Nodup := by
  unfold claim
  generalize c.value.modelTypes = modelTypes
  induction modelTypes generalizing aliases with
  | nil => exact h
  | cons first rest ih => exact ih (nodup_putNew h first c)

/-- No model type comes twice. -/
theorem nodup_byModelType (edits : List Edit) :
    ((ofEdits edits).byModelType.map (·.1)).Nodup := by
  induction edits using List.reverseRecOn with
  | nil => exact List.nodup_nil
  | append_singleton edits last ih =>
      rw [ofEdits_concat]
      cases last with
      | insert architecture kc => exact nodup_claim ih _
      | remove architecture =>
          rw [edit, remove]
          split
          · exact ih
          · exact ih.sublist (List.filter_sublist.map _)

/-- A removal takes the model types of its object back. -/
theorem alias?_remove (hnodup : (m.byModelType.map (·.1)).Nodup) (hget : m.get? id = some c) :
    (m.remove id).alias? modelType = (m.alias? modelType).filter (·.serial ≠ c.serial) := by
  simp only [remove, hget]
  exact Table.lookup_filter_of_nodup hnodup (fun k => decide (k.serial ≠ c.serial)) modelType

theorem remove_of_get?_eq_none (hget : m.get? id = none) : m.remove id = m := by
  rw [remove, hget]

/-! ## Model types -/

theorem alias?_append_eq_none {more : List Edit} (h : (ofEdits edits).alias? modelType = none)
    (hmore : ∀ e ∈ more, ¬ e.Lists modelType) :
    (ofEdits (edits ++ more)).alias? modelType = none := by
  induction more using List.reverseRecOn with
  | nil => simpa using h
  | append_singleton more last ih =>
      rw [List.forall_mem_append] at hmore
      have hbefore := ih hmore.1
      have hlast := hmore.2 last List.mem_cons_self
      rw [← List.append_assoc, ofEdits_concat]
      cases last with
      | insert architecture kc =>
          have hunlisted : modelType ∉ kc.modelTypes := hlast
          rw [edit, alias?_insert, if_neg hunlisted]
          exact hbefore
      | remove architecture =>
          cases hget : (ofEdits (edits ++ more)).get? architecture with
          | none =>
              rw [edit, remove_of_get?_eq_none hget]
              exact hbefore
          | some k =>
              rw [edit, alias?_remove (nodup_byModelType _) hget, hbefore]
              rfl

/-- A model type stays with its object until a removal returns that. -/
theorem alias?_append_eq_some {more : List Edit} (h : (ofEdits edits).alias? modelType = some c)
    (hkept : ¬ Returned (edits ++ more) c) :
    (ofEdits (edits ++ more)).alias? modelType = some c := by
  induction more using List.reverseRecOn with
  | nil => simpa using h
  | append_singleton more last ih =>
      rw [← List.append_assoc, returned_concat_iff, not_or] at hkept
      have hbefore := ih hkept.1
      rw [← List.append_assoc, ofEdits_concat]
      cases last with
      | insert architecture kc =>
          rw [edit, alias?_insert, hbefore]
          simp
      | remove architecture =>
          cases hget : (ofEdits (edits ++ more)).get? architecture with
          | none =>
              rw [edit, remove_of_get?_eq_none hget]
              exact hbefore
          | some k =>
              have hother : c.serial ≠ k.serial := by
                intro hsame
                have htraced := traced_ofEdits (edits ++ more)
                obtain ⟨-, id, hid⟩ := htraced.aliased (mem_byModelType_of_alias? hbefore)
                obtain ⟨rfl, rfl⟩ := hid.unique (htraced.mapped hget) hsame
                exact hkept.2 ⟨_, rfl, get?_eq_some_iff.mp hget⟩
              rw [edit, alias?_remove (nodup_byModelType _) hget, hbefore]
              simp [Option.filter, hother]

theorem FirstSince.alias? (h : FirstSince modelType freed edits c)
    (hfreed : (ofEdits freed).alias? modelType = none) :
    (ofEdits edits).alias? modelType = some c := by
  obtain ⟨before, id, kc, after, rfl, rfl, hbefore, hlists, hkept⟩ := h
  have hvacant := alias?_append_eq_none hfreed hbefore
  have hinserted : (ofEdits (freed ++ before ++ [.insert id kc])).alias? modelType =
      some (made (freed ++ before) kc) := by
    rw [ofEdits_concat, edit, alias?_insert, if_pos hlists, hvacant, Option.getD_none,
      (traced_ofEdits (freed ++ before)).issued]
    rfl
  rw [List.append_cons] at hkept ⊢
  exact alias?_append_eq_some hinserted hkept

/-- A model type that has become free leads nowhere. -/
theorem Freed.alias? (h : Freed modelType edits) : (ofEdits edits).alias? modelType = none := by
  induction h with
  | start => rfl
  | returned _ hfirst hlast ih =>
      have hget := get?_eq_some_iff.mpr hlast
      rw [ofEdits_concat, edit, alias?_remove (nodup_byModelType _) hget, hfirst.alias? ih]
      simp [Option.filter]

theorem Vacant.alias? (h : Vacant modelType edits) : (ofEdits edits).alias? modelType = none := by
  obtain ⟨freed, before, rfl, hfreed, hbefore⟩ := h
  exact alias?_append_eq_none hfreed.alias? hbefore

theorem Owns.alias? (h : Owns modelType edits c) : (ofEdits edits).alias? modelType = some c := by
  obtain ⟨freed, hfreed, hfirst⟩ := h
  exact hfirst.alias? hfreed.alias?

theorem FirstSince.not_returned (h : FirstSince modelType freed edits c) : ¬ Returned edits c := by
  obtain ⟨before, id, kc, after, -, -, -, -, hkept⟩ := h
  exact hkept

theorem FirstSince.concat (h : FirstSince modelType freed edits c)
    (hkept : ¬ Returned (edits ++ [last]) c) :
    FirstSince modelType freed (edits ++ [last]) c := by
  obtain ⟨before, id, kc, after, rfl, rfl, hbefore, hlists, -⟩ := h
  exact ⟨before, id, kc, after ++ [last], by simp, rfl, hbefore, hlists, hkept⟩

/-- At any time a model type has an owner, or it is vacant. -/
theorem owned_or_vacant (modelType : String) (edits : List Edit) :
    (∃ c, Owns modelType edits c) ∨ Vacant modelType edits := by
  induction edits using List.reverseRecOn with
  | nil => exact .inr ⟨[], [], rfl, .start, by simp⟩
  | append_singleton edits last ih =>
      rcases ih with ⟨c, freed, hfreed, hfirst⟩ | ⟨freed, before, rfl, hfreed, hbefore⟩
      · by_cases hreturned : Returned (edits ++ [last]) c
        · -- The last edit returned the owner, which no edit did before.
          rcases returned_concat_iff.mp hreturned with hearlier | ⟨id, rfl, hlast⟩
          · exact absurd hearlier hfirst.not_returned
          · exact .inr ⟨edits ++ [.remove id], [], by simp, .returned hfreed hfirst hlast, by simp⟩
        · exact .inl ⟨c, freed, hfreed, hfirst.concat hreturned⟩
      · by_cases hlists : last.Lists modelType
        · cases last with
          | remove id => exact hlists.elim
          | insert id kc =>
              refine .inl ⟨made (freed ++ before) kc, freed, hfreed, ?_⟩
              exact ⟨before, id, kc, [], by simp, rfl, hbefore, hlists,
                not_returned_made _ id kc⟩
        · refine .inr ⟨freed, before ++ [last], by simp, hfreed, ?_⟩
          rw [List.forall_mem_append]
          exact ⟨hbefore, by simpa using hlists⟩

/-- A model type leads to its owner. -/
theorem alias?_eq_some_iff :
    (ofEdits edits).alias? modelType = some c ↔ Owns modelType edits c := by
  constructor
  · intro h
    rcases owned_or_vacant modelType edits with ⟨k, howns⟩ | hvacant
    · obtain rfl := Option.some.inj (h.symm.trans howns.alias?)
      exact howns
    · rw [hvacant.alias?] at h
      cases h
  · exact Owns.alias?

/-! ## Removals -/

/-- What removing an architecture does that leads to this object: no key leads to the object any
more, and all other architectures stay as they are, as do the model types that do not belong to
the object, be they of an equal class or not. -/
structure TakesBack (m : ClassMapping) (id : String) (c : Shared ConfigClass) : Prop where
  gone : ∀ key, (m.remove id).get? key ≠ some c ∧ (m.remove id).alias? key ≠ some c
  architectures : ∀ other, other ≠ id → (m.remove id).get? other = m.get? other
  modelTypes : ∀ modelType, (∀ k, m.alias? modelType = some k → k.serial ≠ c.serial) →
    (m.remove id).alias? modelType = m.alias? modelType

theorem takesBack (hget : (ofEdits edits).get? id = some c) : (ofEdits edits).TakesBack id c where
  gone key := by
    have htaken : Taken (edits ++ [.remove id]) (.remove id) c := ⟨edits, [], rfl, hget⟩
    have hsame : ofEdits (edits ++ [.remove id]) = (ofEdits edits).remove id := ofEdits_concat
    rw [← hsame]
    refine ⟨get?_ne_of_taken htaken key, ?_⟩
    intro halias
    exact not_mem_of_removed ⟨id, htaken⟩ key (mem_byModelType_of_alias? halias)
  architectures other hother := by rw [get?_remove, if_neg hother]
  modelTypes modelType hother := by
    rw [alias?_remove (nodup_byModelType edits) hget]
    cases halias : (ofEdits edits).alias? modelType with
    | none => rfl
    | some k =>
        have hserial := hother k halias
        simp [Option.filter, hserial]

/-! ## Clones -/

/-- What can be done to the mappings that are cloned from one: one of them is edited, or cloned
once more. -/
inductive Op where
  | edit (place : Nat) (e : Edit)
  | clone (place : Nat)

/-- The members of a family after an operation, where `change` is what an edit makes of one. -/
def afterOp {α : Type} (change : α → Edit → α) (members : List α) : Op → List α
  | .edit place e => members.modify place (change · e)
  | .clone place => members ++ members[place]?.toList

/-- The mappings that some operations make of an empty one. -/
def mappings (ops : List Op) : List ClassMapping := ops.foldl (afterOp edit) [empty]

/-- The edits behind each of the mappings. -/
def histories (ops : List Op) : List (List Edit) :=
  ops.foldl (afterOp fun edits e => edits ++ [e]) [[]]

theorem map_afterOp {α β : Type} {f : α → β} {change : α → Edit → α} {change' : β → Edit → β}
    (h : ∀ x e, change' (f x) e = f (change x e)) (members : List α) (op : Op) :
    afterOp change' (members.map f) op = (afterOp change members op).map f := by
  cases op with
  | edit place e =>
      apply List.ext_getElem?
      intro k
      simp only [afterOp, List.getElem?_map, List.getElem?_modify]
      by_cases hk : place = k
      · cases members[k]? <;> simp [hk, h]
      · cases members[k]? <;> simp [hk]
  | clone place =>
      simp only [afterOp, List.map_append, List.getElem?_map]
      cases members[place]? <;> rfl

/-- Every mapping is what its own edits make of an empty one, whatever is done to the others. -/
theorem mappings_eq (ops : List Op) : mappings ops = (histories ops).map ofEdits := by
  have hstart : [empty] = [[]].map ofEdits := rfl
  rw [mappings, histories, hstart]
  exact List.foldl_hom (List.map ofEdits) (map_afterOp fun _ _ => ofEdits_concat.symm)

/-- **Keys follow their owners**, in every mapping that was edited and cloned in any way: an
architecture leads to the object of its last insertion if it was not removed since, and a model
type to the object that listed it first since it was last free. A removal that finds an object
takes back its keys and no others, and one that finds none changes nothing. -/
theorem keys_follow_owners {ops : List Op} {place : Nat} (h : (mappings ops)[place]? = some m) :
    ∃ edits, (histories ops)[place]? = some edits ∧
      (∀ id c, m.get? id = some c ↔ LastInserted edits id c) ∧
      (∀ modelType c, m.alias? modelType = some c ↔ Owns modelType edits c) ∧
      (∀ id c, m.get? id = some c → m.TakesBack id c) ∧
      ∀ id, m.get? id = none → m.remove id = m := by
  rw [mappings_eq, List.getElem?_map] at h
  obtain ⟨edits, hedits, rfl⟩ := Option.map_eq_some_iff.mp h
  refine ⟨edits, hedits, ?_, ?_, ?_, ?_⟩
  · intro id c
    exact get?_eq_some_iff
  · intro modelType c
    exact alias?_eq_some_iff
  · intro id c hget
    exact takesBack hget
  · intro id hget
    exact remove_of_get?_eq_none hget

/-- One class under two architectures. A clone is taken; then the first architecture is removed,
and the class is inserted once more. -/
def twins : List Op :=
  [.edit 0 (.insert "A" (claiming "Twin")), .edit 0 (.insert "B" (claiming "Twin")), .clone 0,
    .edit 0 (.remove "A"), .edit 0 (.insert "C" (claiming "Twin"))]

/-- The model type belongs to the third of the equal objects, and in the clone to the first, also
if the second is removed there. -/
theorem twins_own_their_keys :
    (∃ m edits, (mappings twins)[0]? = some m ∧ (histories twins)[0]? = some edits ∧
      Owns "m" edits ⟨2, claiming "Twin"⟩) ∧
    ∃ m, (mappings twins)[1]? = some m ∧
      (m.remove "B").alias? "m" = some ⟨0, claiming "Twin"⟩ := by
  obtain ⟨m, hm, hclaimed⟩ : ∃ m, (mappings twins)[0]? = some m ∧
      m.alias? "m" = some ⟨2, claiming "Twin"⟩ := ⟨_, rfl, rfl⟩
  obtain ⟨copy, hcopy, hkept, hmapped⟩ : ∃ copy, (mappings twins)[1]? = some copy ∧
      copy.alias? "m" = some ⟨0, claiming "Twin"⟩ ∧
      copy.get? "B" = some ⟨1, claiming "Twin"⟩ := ⟨_, rfl, rfl, rfl⟩
  obtain ⟨edits, hedits, -, howns, -⟩ := keys_follow_owners hm
  obtain ⟨-, -, -, -, htakes, -⟩ := keys_follow_owners hcopy
  refine ⟨⟨m, edits, hm, hedits, (howns "m" _).mp hclaimed⟩, copy, hcopy, ?_⟩
  rw [(htakes "B" _ hmapped).modelTypes "m", hkept]
  intro k hk
  rw [hkept] at hk
  obtain rfl := Option.some.inj hk
  decide

end ClassMapping

end ModelRegistry
