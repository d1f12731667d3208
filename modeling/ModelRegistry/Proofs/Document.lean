import ModelRegistry.Document
import ModelRegistry.Proofs.Json.Values

/-!
# ModelRegistry.Proofs.Document

Documents and the values that they write. A list of members has values exactly if
each of them has one, and leaving members out by their key commutes with taking
values. `GivenAs` is what the reader of records finds under the name of a field, and
`Document.Proper` says of documents what `Json.Proper` says of values.
-/

namespace ModelRegistry

open Number

namespace Document

variable {items : List Document} {members : List (String × Document)}
  {values : List (String × Json)}

/-! ## Values of items -/

theorem exists_itemsToJson?_of_strings {texts : List String}
    (h : items.mapM string? = some texts) : ∃ values, itemsToJson? items = some values := by
  induction items generalizing texts with
  | nil => exact ⟨[], rfl⟩
  | cons item rest ih =>
      rw [List.mapM_cons] at h
      simp only [Option.bind_eq_bind, Option.bind_eq_some_iff] at h
      obtain ⟨text, htext, others, hothers, -⟩ := h
      obtain ⟨values, hvalues⟩ := ih hothers
      cases item with
      | string s => exact ⟨.string s :: values, by rw [itemsToJson?, hvalues]; rfl⟩
      | null | bool | integer | float | array | object | unreadable => contradiction

theorem exists_of_mem_itemsToJson? {values : List Json}
    (h : itemsToJson? items = some values) {v : Json} (hv : v ∈ values) :
    ∃ d ∈ items, d.toJson? = some v := by
  induction items generalizing values with
  | nil =>
      obtain rfl : [] = values := by simpa [itemsToJson?] using h
      contradiction
  | cons item rest ih =>
      simp only [itemsToJson?, Option.bind_eq_bind, Option.bind_eq_some_iff, Option.pure_def,
        Option.some.injEq] at h
      obtain ⟨w, hw, ws, hws, rfl⟩ := h
      rcases List.mem_cons.mp hv with rfl | hv
      · exact ⟨item, List.mem_cons_self, hw⟩
      · obtain ⟨d, hd, hdv⟩ := ih hws hv
        exact ⟨d, List.mem_cons_of_mem item hd, hdv⟩

/-! ## Values of members -/

theorem membersToJson?_cons_eq_some_iff (key : String) (d : Document)
    (rest : List (String × Document)) :
    membersToJson? ((key, d) :: rest) = some values ↔
      ∃ v vs, d.toJson? = some v ∧ membersToJson? rest = some vs ∧ values = (key, v) :: vs := by
  rw [membersToJson?]
  cases d.toJson? with
  | none => simp
  | some v => cases membersToJson? rest <;> simp [eq_comm]

theorem exists_membersToJson? (h : ∀ member ∈ members, ∃ v, member.2.toJson? = some v) :
    ∃ values, membersToJson? members = some values := by
  induction members with
  | nil => exact ⟨[], rfl⟩
  | cons member rest ih =>
      rw [List.forall_mem_cons] at h
      obtain ⟨⟨v, hv⟩, hrest⟩ := h
      obtain ⟨vs, hvs⟩ := ih hrest
      exact ⟨_, (membersToJson?_cons_eq_some_iff _ _ rest).mpr ⟨v, vs, hv, hvs, rfl⟩⟩

theorem exists_toJson?_of_mem (h : membersToJson? members = some values)
    {member : String × Document} (hmem : member ∈ members) : ∃ v, member.2.toJson? = some v := by
  induction members generalizing values with
  | nil => exact (List.not_mem_nil hmem).elim
  | cons first rest ih =>
      obtain ⟨v, vs, hv, hvs, rfl⟩ := (membersToJson?_cons_eq_some_iff _ _ rest).mp h
      rcases List.mem_cons.mp hmem with rfl | hmem
      · exact ⟨v, hv⟩
      · exact ih hvs hmem

/-- Members that are left out by their key are left out of the values. -/
theorem membersToJson?_filter (keep : String → Bool) (h : membersToJson? members = some values) :
    membersToJson? (members.filter fun member => keep member.1) =
      some (values.filter fun value => keep value.1) := by
  induction members generalizing values with
  | nil =>
      obtain rfl : [] = values := by simpa [membersToJson?] using h
      rfl
  | cons member rest ih =>
      obtain ⟨key, d⟩ := member
      obtain ⟨v, vs, hv, hvs, rfl⟩ := (membersToJson?_cons_eq_some_iff key d rest).mp h
      rw [List.filter_cons, List.filter_cons]
      split
      · exact (membersToJson?_cons_eq_some_iff key d _).mpr ⟨v, _, hv, ih hvs, rfl⟩
      · exact ih hvs

theorem exists_of_mem_membersToJson? (h : membersToJson? members = some values)
    {value : String × Json} (hv : value ∈ values) :
    ∃ member ∈ members, member.2.toJson? = some value.2 := by
  induction members generalizing values with
  | nil =>
      obtain rfl : [] = values := by simpa [membersToJson?] using h
      contradiction
  | cons member rest ih =>
      obtain ⟨w, ws, hw, hws, rfl⟩ := (membersToJson?_cons_eq_some_iff _ _ rest).mp h
      rcases List.mem_cons.mp hv with rfl | hv
      · exact ⟨member, List.mem_cons_self, hw⟩
      · obtain ⟨m, hm, hmv⟩ := ih hws hv
        exact ⟨m, List.mem_cons_of_mem member hm, hmv⟩

/-! ## Fields of records -/

/-- The members under a name are the one given, or there are none. -/
def GivenAs (members : List (String × Document)) (name : String) (d? : Option Document) : Prop :=
  members.filter (·.1 == name) = (d?.map fun d => (name, d)).toList

theorem GivenAs.eq_some {name : String} {d? : Option Document} (h : GivenAs members name d?)
    {d : Document} (hmem : (name, d) ∈ members) : d? = some d := by
  have hfilter : (name, d) ∈ members.filter (·.1 == name) :=
    List.mem_filter.mpr ⟨hmem, beq_self_eq_true name⟩
  rw [h] at hfilter
  cases d? with
  | none => contradiction
  | some e => simpa [eq_comm] using hfilter

/-- Fields that are found by name are given at most once. -/
theorem givenAs_of_fieldsByName? {names : List String} {given : List (Option Document)}
    (h : fieldsByName? names members = some given) :
    List.Forall₂ (GivenAs members) names given := by
  induction names generalizing given with
  | nil =>
      obtain rfl : [] = given := by simpa [fieldsByName?] using h
      exact .nil
  | cons name rest ih =>
      rw [fieldsByName?, List.mapM_cons] at h
      simp only [Option.bind_eq_bind, Option.bind_eq_some_iff, Option.pure_def,
        Option.some.injEq] at h
      obtain ⟨d?, hd, others, hothers, rfl⟩ := h
      refine .cons ?_ (ih hothers)
      split at hd
      · next hfilter =>
          obtain rfl := Option.some.inj hd
          exact hfilter
      · next key d hfilter =>
          obtain rfl := Option.some.inj hd
          have hmem : (key, d) ∈ members.filter (·.1 == name) := by simp [hfilter]
          obtain rfl : key = name := by simpa using (List.mem_filter.mp hmem).2
          exact hfilter
      · contradiction

/-- And fields that are given at most once are found. -/
theorem fieldsByName?_of_givenAs {names : List String} {given : List (Option Document)}
    (h : List.Forall₂ (GivenAs members) names given) : fieldsByName? names members = some given := by
  induction h with
  | nil => rfl
  | @cons name d? names given hgiven _ ih =>
      rw [fieldsByName?] at ih
      rw [fieldsByName?, List.mapM_cons, hgiven, ih]
      cases d? <;> rfl

/-! ## Documents of values -/

theorem ofMembers_eq_map (members : List (String × Json)) :
    ofMembers members = members.map fun member => (member.1, ofJson member.2) := by
  induction members with
  | nil => rfl
  | cons member rest ih => rw [ofMembers, ih, List.map_cons]

theorem itemsToJson?_ofItems {items : List Json}
    (h : ∀ item ∈ items, (ofJson item).toJson? = some item) :
    itemsToJson? (ofItems items) = some items := by
  induction items with
  | nil => rfl
  | cons item rest ih =>
      rw [List.forall_mem_cons] at h
      rw [ofItems, itemsToJson?, h.1, ih h.2]
      rfl

theorem membersToJson?_ofMembers (h : ∀ value ∈ values, (ofJson value.2).toJson? = some value.2) :
    membersToJson? (ofMembers values) = some values := by
  induction values with
  | nil => rfl
  | cons value rest ih =>
      rw [List.forall_mem_cons] at h
      exact (membersToJson?_cons_eq_some_iff _ _ _).mpr ⟨_, rest, h.1, ih h.2, rfl⟩

/-- A value that is written as a document is the value of the document. -/
theorem toJson?_ofJson {v : Json} (h : v.Proper) : (ofJson v).toJson? = some v := by
  induction h with
  | null | bool | integer | string => rfl
  | float hfinite => rw [ofJson, toJson?, Json.float, if_pos hfinite]
  | array _ ih => rw [ofJson, toJson?, itemsToJson?_ofItems ih, Option.map_some]
  | object hsorted _ ih =>
      rw [ofJson, toJson?, membersToJson?_ofMembers ih, Option.map_some,
        Members.ofList_of_sorted hsorted]

/-- In the document of an object that has each key once, a name is given as its value. -/
theorem givenAs_ofMembers (h : (Members.keys values).Nodup) (name : String) :
    GivenAs (ofMembers values) name ((values.lookup name).map ofJson) := by
  induction values with
  | nil => rfl
  | cons value rest ih =>
      obtain ⟨key, v⟩ := value
      rw [Members.keys, List.map_cons, List.nodup_cons] at h
      have hrest := ih h.2
      rw [GivenAs] at hrest ⊢
      by_cases hname : name = key
      · subst hname
        have hnone : rest.lookup name = none := Members.lookup_eq_none_of_not_mem h.1
        rw [hnone] at hrest
        simp [ofMembers, hrest]
      · have hbeq : (key == name) = false := by simpa using Ne.symm hname
        rw [Members.lookup_cons_of_ne hname, ofMembers, List.filter_cons, hbeq]
        exact hrest

/-- The fields of a record are found in the document of an object. -/
theorem fieldsByName?_ofMembers (h : (Members.keys values).Nodup) (names : List String) :
    fieldsByName? names (ofMembers values) =
      some (names.map fun name => (values.lookup name).map ofJson) := by
  refine fieldsByName?_of_givenAs ?_
  rw [List.forall₂_map_right_iff, List.forall₂_same]
  exact fun name _ => givenAs_ofMembers h name

theorem string?_ofJson {v : Json} {text : String} :
    (ofJson v).string? = some text ↔ v = .string text := by
  cases v with
  | string s => simp [ofJson, string?]
  | number x => cases x <;> simp [ofJson, string?]
  | null | bool | array | object => simp [ofJson, string?]

theorem mapM_string?_ofItems {items : List Json} {texts : List String} :
    (ofItems items).mapM string? = some texts ↔ items = texts.map .string := by
  induction items generalizing texts with
  | nil => cases texts <;> simp [ofItems]
  | cons item rest ih =>
      rw [ofItems, List.mapM_cons]
      simp only [Option.bind_eq_bind, Option.bind_eq_some_iff, Option.pure_def, Option.some.injEq,
        string?_ofJson, ih]
      constructor
      · rintro ⟨text, rfl, texts, rfl, rfl⟩
        rfl
      · intro h
        obtain ⟨text, others, rfl, rfl, rfl⟩ := List.map_eq_cons_iff.mp h.symm
        exact ⟨text, rfl, others, rfl, rfl⟩

/-- A list of strings is read from what writes it, and from nothing else. -/
theorem list?_string?_ofJson {v : Json} {texts : List String} :
    (ofJson v).list? string? = some texts ↔ v = .strings texts := by
  cases v with
  | array items => simp [list?, ofJson, array?, Json.strings, mapM_string?_ofItems]
  | number x => cases x <;> simp [list?, ofJson, array?, Json.strings]
  | null | bool | string | object => simp [list?, ofJson, array?, Json.strings]

theorem optional?_ofJson {α : Type} (value? : Document → Option α) {v : Json} (hv : v ≠ .null) :
    optional? value? (ofJson v) = (value? (ofJson v)).map some := by
  cases v with
  | null => contradiction
  | number x => cases x <;> rfl
  | bool | string | array | object => rfl

/-! ## Proper documents -/

/-- A document with the numbers of JSON text. -/
inductive Proper : Document → Prop where
  | null : Proper .null
  | bool (b : Bool) : Proper (.bool b)
  | integer {n : Int} : -(signedBound : Int) ≤ n → n < UInt64.size → Proper (.integer n)
  | float {x : Binary64} : x.isFinite → Proper (.float x)
  | string (s : String) : Proper (.string s)
  | array {items : List Document} : (∀ item ∈ items, Proper item) → Proper (.array items)
  | object {members : List (String × Document)} : (∀ member ∈ members, Proper member.2) →
      Proper (.object members)
  | unreadable : Proper .unreadable

/-- The value of a proper document is proper. -/
theorem Proper.toJson? {d : Document} (h : d.Proper) {v : Json} (hv : d.toJson? = some v) :
    v.Proper := by
  induction h generalizing v with
  | null =>
      obtain rfl := Option.some.inj hv
      exact .null
  | bool b =>
      obtain rfl := Option.some.inj hv
      exact .bool b
  | integer hlow hhigh =>
      obtain rfl := Option.some.inj hv
      exact .integer hlow hhigh
  | float hfinite =>
      obtain rfl := Option.some.inj hv
      rw [Json.float, if_pos hfinite]
      exact .float hfinite
  | string s =>
      obtain rfl := Option.some.inj hv
      exact .string s
  | array _ ih =>
      obtain ⟨values, hvalues, rfl⟩ := Option.map_eq_some_iff.mp hv
      refine .array fun w hw => ?_
      obtain ⟨d, hd, hdw⟩ := exists_of_mem_itemsToJson? hvalues hw
      exact ih d hd hdw
  | object _ ih =>
      obtain ⟨values, hvalues, rfl⟩ := Option.map_eq_some_iff.mp hv
      refine .object (Members.sorted_ofList values) fun w hw => ?_
      obtain ⟨m, hm, hmw⟩ := exists_of_mem_membersToJson? hvalues (Members.mem_of_mem_ofList hw)
      exact ih m hm hmw
  | unreadable => contradiction

end Document

end ModelRegistry
