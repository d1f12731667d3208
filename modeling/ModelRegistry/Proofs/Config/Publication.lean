import ModelRegistry.Config.ClassDocument
import ModelRegistry.Proofs.Document
import ModelRegistry.Proofs.Config.Rebuilding

/-!
# ModelRegistry.Proofs.Config.Publication

Configuration classes that are published as JSON and read again. `ConfigClass.Published`
is the format: which keys the objects for a class, its fields and its slots have, and
what stands under them, in whatever order they come. What a class is written as has this
format, as text and as the value of the text, and whatever has this format is read as the
class (`survives_publication`). Only a default of null is lost on the way, since the
reader takes it for none.
-/

namespace ModelRegistry

/-! ## Objects by what they say -/

/-- The value is an object that says this much: what stands under each of these keys, or that
nothing does. -/
def Json.Says (v : Json) (entries : List (String × Option Json)) : Prop :=
  ∃ object, v = .object object ∧ (Members.keys object).Nodup ∧
    ∀ entry ∈ entries, object.lookup entry.1 = entry.2

namespace Document

variable {v w : Json} {object values : Json.Object} {entries : List (String × Option Json)}

/-- The keys of a record that an object speaks of are read as it says. -/
theorem fieldsByName?_of_says (entries : List (String × Option Json))
    (hnodup : (Members.keys object).Nodup)
    (h : ∀ entry ∈ entries, object.lookup entry.1 = entry.2) :
    fieldsByName? (entries.map (·.1)) (ofMembers object) =
      some (entries.map fun entry => entry.2.map ofJson) := by
  rw [fieldsByName?_ofMembers hnodup, List.map_map, Option.some.injEq]
  exact List.map_congr_left fun entry hentry => by simp [h entry hentry]

mutual

/-- Every value has a value as a document. -/
theorem exists_toJson?_ofJson : (v : Json) → ∃ w, (ofJson v).toJson? = some w
  | .null | .bool _ | .string _ | .number (.integer _) | .number (.float _) => ⟨_, rfl⟩
  | .array items => by
      obtain ⟨ws, hws⟩ := exists_itemsToJson?_ofItems items
      exact ⟨.array ws, by rw [ofJson, toJson?, hws, Option.map_some]⟩
  | .object members => by
      obtain ⟨ws, hws⟩ := exists_membersToJson?_ofMembers members
      exact ⟨.object (Members.ofList ws), by rw [ofJson, toJson?, hws, Option.map_some]⟩

/-- So do the values of a list. -/
theorem exists_itemsToJson?_ofItems : (items : List Json) →
    ∃ ws, itemsToJson? (ofItems items) = some ws
  | [] => ⟨[], rfl⟩
  | v :: rest => by
      obtain ⟨w, hw⟩ := exists_toJson?_ofJson v
      obtain ⟨ws, hws⟩ := exists_itemsToJson?_ofItems rest
      exact ⟨w :: ws, by rw [ofItems, itemsToJson?, hw, hws]; rfl⟩

/-- So do the members of an object. -/
theorem exists_membersToJson?_ofMembers : (members : List (String × Json)) →
    ∃ ws, membersToJson? (ofMembers members) = some ws
  | [] => ⟨[], rfl⟩
  | (_, v) :: rest => by
      obtain ⟨w, hw⟩ := exists_toJson?_ofJson v
      obtain ⟨ws, hws⟩ := exists_membersToJson?_ofMembers rest
      exact ⟨_, (membersToJson?_cons_eq_some_iff _ _ _).mpr ⟨w, ws, hw, hws, rfl⟩⟩

end

theorem forall₂_of_itemsToJson? {items values : List Json}
    (h : itemsToJson? (ofItems items) = some values) :
    List.Forall₂ (fun v w => (ofJson v).toJson? = some w) items values := by
  induction items generalizing values with
  | nil =>
      obtain rfl : [] = values := by simpa [ofItems, itemsToJson?] using h
      exact .nil
  | cons v rest ih =>
      simp only [ofItems, itemsToJson?, Option.bind_eq_bind, Option.bind_eq_some_iff,
        Option.pure_def, Option.some.injEq] at h
      obtain ⟨w, hw, ws, hws, rfl⟩ := h
      exact .cons hw (ih hws)

/-- The values of members stand under the same keys. -/
theorem lookup_membersToJson? (h : membersToJson? (ofMembers object) = some values)
    (key : String) :
    values.lookup key = (object.lookup key).bind fun v => (ofJson v).toJson? := by
  induction object generalizing values with
  | nil =>
      obtain rfl : [] = values := by simpa [ofMembers, membersToJson?] using h
      rfl
  | cons member rest ih =>
      obtain ⟨name, v⟩ := member
      obtain ⟨w, ws, hw, hws, rfl⟩ := (membersToJson?_cons_eq_some_iff _ _ _).mp h
      by_cases hkey : key = name
      · subst hkey
        simp [hw]
      · rw [Members.lookup_cons_of_ne hkey, Members.lookup_cons_of_ne hkey, ih hws]

theorem keys_membersToJson? (h : membersToJson? (ofMembers object) = some values) :
    Members.keys values = Members.keys object := by
  induction object generalizing values with
  | nil =>
      obtain rfl : [] = values := by simpa [ofMembers, membersToJson?] using h
      rfl
  | cons member rest ih =>
      obtain ⟨w, ws, -, hws, rfl⟩ := (membersToJson?_cons_eq_some_iff _ _ _).mp h
      have hrest := ih hws
      rw [Members.keys, Members.keys] at hrest ⊢
      rw [List.map_cons, List.map_cons, hrest]

/-- What an object says, the value of its document says of the values below. -/
theorem says_of_toJson? (h : v.Says entries) (hvalue : (ofJson v).toJson? = some w) :
    w.Says (entries.map fun entry => (entry.1, entry.2.bind fun u => (ofJson u).toJson?)) := by
  obtain ⟨object, rfl, hnodup, hsays⟩ := h
  rw [ofJson, toJson?, Option.map_eq_some_iff] at hvalue
  obtain ⟨values, hvalues, rfl⟩ := hvalue
  have hkeys : (Members.keys values).Nodup := by rwa [keys_membersToJson? hvalues]
  refine ⟨_, rfl, (Members.sorted_ofList values).nodup, fun entry hentry => ?_⟩
  obtain ⟨said, hsaid, rfl⟩ := List.mem_map.mp hentry
  rw [Members.lookup_ofList, Members.lookup_reverse_of_nodup hkeys,
    lookup_membersToJson? hvalues, hsays said hsaid]

end Document

/-! ## Fields -/

theorem FieldType.ofKey?_key (type : FieldType) : ofKey? type.key = some type := by
  cases type <;> rfl

namespace FieldSpec

variable {spec : FieldSpec} {v w : Json}

/-- The format of a field. -/
def Published (spec : FieldSpec) (v : Json) : Prop :=
  v.Says [("name", some (.string spec.name)), ("type", some (.string spec.type.key)),
    ("required", some (.bool spec.required)), ("default", spec.default)]

/-- The field without a default if the default is null. -/
def withoutNullDefault (spec : FieldSpec) : FieldSpec :=
  { spec with default := spec.default.filter (· ≠ .null) }

theorem withoutNullDefault_eq_self_iff :
    spec.withoutNullDefault = spec ↔ spec.default ≠ some .null := by
  obtain ⟨name, type, required, default⟩ := spec
  cases default with
  | none => simp [withoutNullDefault]
  | some v => by_cases hnull : v = .null <;> simp [withoutNullDefault, hnull]

theorem published_toJson (spec : FieldSpec) : spec.Published spec.toJson := by
  obtain ⟨name, type, required, default⟩ := spec
  refine ⟨_, rfl, ?_, ?_⟩
  · cases default <;> simp [Members.keys]
  · cases default <;> simp [List.lookup_cons]

theorem Published.toJson? (hdefault : ∀ u, spec.default = some u → u.Proper)
    (h : spec.Published v) (hvalue : (Document.ofJson v).toJson? = some w) : spec.Published w := by
  have hsays := Document.says_of_toJson? h hvalue
  have hkept : (spec.default.bind fun u => (Document.ofJson u).toJson?) = spec.default := by
    cases hspec : spec.default with
    | none => rfl
    | some u => exact Document.toJson?_ofJson (hdefault u hspec)
  simpa [Published, hkept, Document.ofJson, Document.toJson?] using hsays

/-- A field is read from what has its format. -/
theorem ofDocument?_of_published (hdefault : ∀ u, spec.default = some u → u.Proper)
    (h : spec.Published v) :
    ofDocument? (Document.ofJson v) = some spec.withoutNullDefault := by
  obtain ⟨object, rfl, hnodup, hsays⟩ := h
  have hfields := Document.fieldsByName?_of_says _ hnodup hsays
  have hread : Document.withDefault? none (Document.optional? Document.toJson?)
      (spec.default.map Document.ofJson) = some (spec.default.filter (· ≠ .null)) := by
    cases hspec : spec.default with
    | none => rfl
    | some u =>
        by_cases hnull : u = .null
        · subst hnull
          rfl
        · have hu := Document.toJson?_ofJson (hdefault u hspec)
          rw [Option.filter_some_pos (by simpa using hnull)]
          simp [Document.withDefault?, Document.optional?_ofJson _ hnull, hu]
  have htype : FieldType.ofDocument? (Document.ofJson (.string spec.type.key)) = some spec.type :=
    FieldType.ofKey?_key spec.type
  simp only [List.map_cons, List.map_nil, Option.map_some] at hfields
  rw [Document.ofJson, ofDocument?, Document.record?, hfields]
  simp only [Option.bind_eq_bind, Option.bind_some, Document.required?, htype, hread]
  rfl

end FieldSpec

/-! ## Classes -/

namespace ConfigClass

variable {c : ConfigClass} {v w : Json} {object : Json.Object}

mutual

/-- The format of a class. -/
def Published : ConfigClass → Json → Prop
  | .mk name modelTypes fields slots, v => ∃ specs nested,
      v.Says [("name", some (.string name)),
        ("model_types", if modelTypes.isEmpty then none else some (.strings modelTypes)),
        ("model_type", none), ("fields", some (.array specs)), ("nested", some (.array nested))] ∧
      List.Forall₂ FieldSpec.Published fields specs ∧ PublishedSlots slots nested

/-- The format of a list of slots. -/
def PublishedSlots : List (Slot ConfigClass) → List Json → Prop
  | [], nested => nested = []
  | ⟨name, child, required, flattened⟩ :: rest, nested => ∃ v w others, nested = v :: others ∧
      v.Says [("slot", some (.string name)), ("class", some w), ("required", some (.bool required)),
        ("flattened", some (.bool flattened))] ∧
      Published child w ∧ PublishedSlots rest others

end

/-! ### Defaults of null -/

/-- No default of the class is null, at any depth. -/
def NoNullDefaults : ConfigClass → Prop :=
  Everywhere fun c => ∀ spec ∈ c.fields, spec.default ≠ some .null

mutual

/-- The class without its defaults of null, at any depth. -/
def withoutNullDefaults : ConfigClass → ConfigClass
  | .mk name modelTypes fields slots =>
    .mk name modelTypes (fields.map FieldSpec.withoutNullDefault) (slotsWithoutNullDefaults slots)

/-- The slots with their classes without the defaults of null. -/
def slotsWithoutNullDefaults : List (Slot ConfigClass) → List (Slot ConfigClass)
  | [] => []
  | ⟨name, child, required, flattened⟩ :: rest =>
    ⟨name, withoutNullDefaults child, required, flattened⟩ :: slotsWithoutNullDefaults rest

end

theorem slotsWithoutNullDefaults_eq_map (slots : List (Slot ConfigClass)) :
    slotsWithoutNullDefaults slots =
      slots.map fun slot => { slot with child := slot.child.withoutNullDefaults } := by
  induction slots with
  | nil => rfl
  | cons slot rest ih => rw [slotsWithoutNullDefaults, ih, List.map_cons]

theorem map_eq_self_iff {α : Type} (f : α → α) (items : List α) :
    items.map f = items ↔ ∀ item ∈ items, f item = item := by
  simpa using List.map_eq_map_iff (f := f) (g := id) (l := items)

theorem withoutNullDefaults_eq_self_iff (c : ConfigClass) :
    c.withoutNullDefaults = c ↔ c.NoNullDefaults := by
  induction c using slotInduction with
  | node c ih =>
      obtain ⟨name, modelTypes, fields, slots⟩ := c
      have hfields : fields.map FieldSpec.withoutNullDefault = fields ↔
          ∀ spec ∈ fields, spec.default ≠ some .null := by
        simp only [← FieldSpec.withoutNullDefault_eq_self_iff]
        exact map_eq_self_iff _ fields
      have hslots : slotsWithoutNullDefaults slots = slots ↔
          ∀ slot ∈ slots, slot.child.NoNullDefaults := by
        rw [slotsWithoutNullDefaults_eq_map, map_eq_self_iff]
        refine forall₂_congr fun slot hslot => ?_
        rw [← ih slot hslot]
        obtain ⟨slotName, child, required, flattened⟩ := slot
        simp
      rw [withoutNullDefaults, ConfigClass.mk.injEq, hfields, hslots]
      constructor
      · rintro ⟨-, -, hnull, hbelow⟩
        exact .intro hnull hbelow
      · rintro ⟨hnull, hbelow⟩
        exact ⟨rfl, rfl, hnull, hbelow⟩

/-! ### Writing -/

theorem publishedSlots_slotsToJson {slots : List (Slot ConfigClass)}
    (h : ∀ slot ∈ slots, slot.child.Published slot.child.toJson) :
    PublishedSlots slots (slotsToJson slots) := by
  induction slots with
  | nil => rfl
  | cons slot rest ih =>
      rw [List.forall_mem_cons] at h
      refine ⟨_, _, _, rfl, ⟨_, rfl, ?_, ?_⟩, h.1, ih h.2⟩
      · simp [Members.keys]
      · simp [List.lookup_cons]

/-- What a class is written as has the format. -/
theorem published_toJson (c : ConfigClass) : c.Published c.toJson := by
  induction c using slotInduction with
  | node c ih =>
      obtain ⟨name, modelTypes, fields, slots⟩ := c
      have hfields : List.Forall₂ FieldSpec.Published fields (fields.map FieldSpec.toJson) := by
        rw [List.forall₂_map_right_iff, List.forall₂_same]
        exact fun spec _ => spec.published_toJson
      refine ⟨_, _, ⟨_, rfl, ?_, ?_⟩, hfields, publishedSlots_slotsToJson ih⟩
      · cases modelTypes <;> simp [Members.keys]
      · cases modelTypes <;> simp [List.lookup_cons]

theorem publishedFields_toJson? {fields : List FieldSpec} {specs values : List Json}
    (hproper : ∀ spec ∈ fields, ∀ u, spec.default = some u → u.Proper)
    (h : List.Forall₂ FieldSpec.Published fields specs)
    (hvalues : Document.itemsToJson? (Document.ofItems specs) = some values) :
    List.Forall₂ FieldSpec.Published fields values := by
  have hitems := Document.forall₂_of_itemsToJson? hvalues
  clear hvalues
  induction h generalizing values with
  | nil =>
      cases hitems
      exact .nil
  | cons hspec _ ih =>
      rw [List.forall_mem_cons] at hproper
      cases hitems with
      | cons hvalue hitems => exact .cons (hspec.toJson? hproper.1 hvalue) (ih hproper.2 hitems)

theorem publishedSlots_toJson? {slots : List (Slot ConfigClass)} {nested values : List Json}
    (hclosed : ∀ slot ∈ slots, ∀ v w, slot.child.Published v →
      (Document.ofJson v).toJson? = some w → slot.child.Published w)
    (h : PublishedSlots slots nested)
    (hvalues : Document.itemsToJson? (Document.ofItems nested) = some values) :
    PublishedSlots slots values := by
  have hitems := Document.forall₂_of_itemsToJson? hvalues
  clear hvalues
  induction slots generalizing nested values with
  | nil =>
      obtain rfl : nested = [] := h
      cases hitems
      rfl
  | cons slot rest ih =>
      rw [List.forall_mem_cons] at hclosed
      obtain ⟨v, child, others, rfl, hsays, hchild, hrest⟩ := h
      cases hitems with
      | @cons _ w _ values hvalue hitems =>
          obtain ⟨childValue, hchildValue⟩ := Document.exists_toJson?_ofJson child
          have hsaysValue := Document.says_of_toJson? hsays hvalue
          refine ⟨w, childValue, values, rfl, ?_, hclosed.1 _ _ hchild hchildValue,
            ih hclosed.2 hrest hitems⟩
          simpa [Document.ofJson, Document.toJson?, hchildValue] using hsaysValue

/-- The value of something of the format has the format. -/
theorem Published.toJson? (hdefaults : c.ProperDefaults) (h : c.Published v)
    (hvalue : (Document.ofJson v).toJson? = some w) : c.Published w := by
  induction c using slotInduction generalizing v w with
  | node c ih =>
      obtain ⟨hproper, hbelow⟩ := hdefaults
      obtain ⟨name, modelTypes, fields, slots⟩ := c
      obtain ⟨specs, nested, hsays, hspecs, hnested⟩ := h
      obtain ⟨specValues, hspecValues⟩ := Document.exists_itemsToJson?_ofItems specs
      obtain ⟨nestedValues, hnestedValues⟩ := Document.exists_itemsToJson?_ofItems nested
      have hstrings : (Document.ofJson (.strings modelTypes)).toJson? =
          some (.strings modelTypes) := by
        refine Document.toJson?_ofJson (.array fun item hitem => ?_)
        obtain ⟨text, -, rfl⟩ := List.mem_map.mp hitem
        exact .string text
      have hsaysValue := Document.says_of_toJson? hsays hvalue
      refine ⟨specValues, nestedValues, ?_, publishedFields_toJson? hproper hspecs hspecValues,
        publishedSlots_toJson? (fun slot hslot v w => ih slot hslot (hbelow slot hslot)) hnested
          hnestedValues⟩
      cases modelTypes <;>
        simpa [Document.ofJson, Document.toJson?, hspecValues, hnestedValues, hstrings]
          using hsaysValue

/-! ### Reading -/

theorem canonicalKey_ofMembers (h : object.lookup "model_type" = none) :
    ((Document.ofMembers object).map fun member => (canonicalKey member.1, member.2)) =
      Document.ofMembers object := by
  rw [Document.ofMembers_eq_map, List.map_map]
  refine List.map_congr_left fun member hmem => ?_
  have hname : member.1 ≠ "model_type" := by
    intro hname
    have hkey : "model_type" ∈ Members.keys object := hname ▸ List.mem_map_of_mem hmem
    rw [Members.mem_keys_iff, h] at hkey
    contradiction
  simp [canonicalKey, hname]

theorem any_ofMembers_eq_false {key : String} (h : key ∉ Members.keys object) :
    (Document.ofMembers object).any (·.1 == key) = false := by
  rw [Document.ofMembers_eq_map, List.any_map, List.any_eq_false]
  intro member hmem hkey
  exact h (List.mem_map.mpr ⟨member, hmem, by simpa using hkey⟩)

theorem slotsMember?_ofMembers (h : (Members.keys object).Nodup) :
    slotsMember? (Document.ofMembers object) =
      ((object.lookup "nested").map (slots? ∘ Document.ofJson)).getD (some []) := by
  induction object with
  | nil => rfl
  | cons member rest ih =>
      obtain ⟨key, v⟩ := member
      rw [Members.keys, List.map_cons, List.nodup_cons] at h
      rw [Document.ofMembers, slotsMember?]
      by_cases hkey : key = "nested"
      · subst hkey
        have hany := any_ofMembers_eq_false h.1
        simp [hany]
      · rw [if_neg hkey, ih h.2, Members.lookup_cons_of_ne (Ne.symm hkey)]

theorem classMember?_ofMembers (h : (Members.keys object).Nodup) :
    classMember? (Document.ofMembers object) =
      (object.lookup "class").bind (ofDocument? ∘ Document.ofJson) := by
  induction object with
  | nil => rfl
  | cons member rest ih =>
      obtain ⟨key, v⟩ := member
      rw [Members.keys, List.map_cons, List.nodup_cons] at h
      rw [Document.ofMembers, classMember?]
      by_cases hkey : key = "class"
      · subst hkey
        have hany := any_ofMembers_eq_false h.1
        simp [hany]
      · rw [if_neg hkey, ih h.2, Members.lookup_cons_of_ne (Ne.symm hkey)]

theorem mapM_ofDocument?_of_published {fields : List FieldSpec} {specs : List Json}
    (hproper : ∀ spec ∈ fields, ∀ u, spec.default = some u → u.Proper)
    (h : List.Forall₂ FieldSpec.Published fields specs) :
    (Document.ofItems specs).mapM FieldSpec.ofDocument? =
      some (fields.map FieldSpec.withoutNullDefault) := by
  induction h with
  | nil => rfl
  | cons hspec _ ih =>
      rw [List.forall_mem_cons] at hproper
      rw [Document.ofItems, List.mapM_cons, FieldSpec.ofDocument?_of_published hproper.1 hspec,
        ih hproper.2]
      rfl

theorem slotItems?_of_published {slots : List (Slot ConfigClass)} {nested : List Json}
    (hread : ∀ slot ∈ slots, ∀ v, slot.child.Published v →
      ofJson? v = some slot.child.withoutNullDefaults)
    (h : PublishedSlots slots nested) :
    slotItems? (Document.ofItems nested) = some (slotsWithoutNullDefaults slots) := by
  induction slots generalizing nested with
  | nil =>
      obtain rfl : nested = [] := h
      rfl
  | cons slot rest ih =>
      rw [List.forall_mem_cons] at hread
      obtain ⟨v, w, others, rfl, ⟨object, rfl, hnodup, hsays⟩, hchild, hrest⟩ := h
      obtain ⟨name, child, required, flattened⟩ := slot
      have hclass : object.lookup "class" = some w := hsays ("class", some w) (by simp)
      have hfields : Document.fieldsByName? slotFields (Document.ofMembers object) =
          some [some (.string name), some (.bool required), some (.bool flattened)] := by
        refine Document.fieldsByName?_of_says [("slot", some (.string name)),
          ("required", some (.bool required)), ("flattened", some (.bool flattened))] hnodup ?_
        exact fun entry hentry => hsays entry (by grind)
      have hslot : slot? (Document.ofJson (.object object)) =
          some ⟨name, child.withoutNullDefaults, required, flattened⟩ := by
        rw [Document.ofJson, slot?, hfields, classMember?_ofMembers hnodup, hclass]
        have hw : ofDocument? (Document.ofJson w) = some child.withoutNullDefaults :=
          hread.1 w hchild
        simp only [Option.bind_eq_bind, Option.bind_some, Function.comp_apply, hw]
        rfl
      rw [Document.ofItems, slotItems?, hslot, ih hread.2 hrest]
      rfl

/-- A class is read from what has its format, but for defaults of null. -/
theorem ofJson?_of_published (hdefaults : c.ProperDefaults) (h : c.Published v) :
    ofJson? v = some c.withoutNullDefaults := by
  induction c using slotInduction generalizing v with
  | node c ih =>
      obtain ⟨hproper, hbelow⟩ := hdefaults
      obtain ⟨name, modelTypes, fields, slots⟩ := c
      obtain ⟨specs, nested, ⟨object, rfl, hnodup, hsays⟩, hspecs, hnested⟩ := h
      have hmodelType : object.lookup "model_type" = none := hsays ("model_type", none) (by simp)
      have hnestedMember : object.lookup "nested" = some (.array nested) :=
        hsays ("nested", some (.array nested)) (by simp)
      have hfields : Document.fieldsByName? plainFields (Document.ofMembers object) =
          some [some (.string name), (if modelTypes.isEmpty then none
            else some (.strings modelTypes)).map Document.ofJson,
            some (.array (Document.ofItems specs))] := by
        refine Document.fieldsByName?_of_says [("name", some (.string name)),
          ("model_types", if modelTypes.isEmpty then none else some (.strings modelTypes)),
          ("fields", some (.array specs))] hnodup ?_
        exact fun entry hentry => hsays entry (by grind)
      have hslots : slots? (Document.ofJson (.array nested)) =
          some (slotsWithoutNullDefaults slots) :=
        slotItems?_of_published (fun slot hslot v hv => ih slot hslot (hbelow slot hslot) hv)
          hnested
      have hspecsRead : Document.withDefault? [] (Document.list? FieldSpec.ofDocument?)
          (some (.array (Document.ofItems specs))) =
            some (fields.map FieldSpec.withoutNullDefault) :=
        mapM_ofDocument?_of_published hproper hspecs
      have hmodelTypes : Document.withDefault? [] modelTypes?
          ((if modelTypes.isEmpty then none
            else some (.strings modelTypes)).map Document.ofJson) = some modelTypes := by
        cases modelTypes with
        | nil => rfl
        | cons first rest => exact Document.list?_string?_ofJson.mpr rfl
      rw [ofJson?, Document.ofJson, ofDocument?, canonicalKey_ofMembers hmodelType, hfields,
        slotsMember?_ofMembers hnodup, hnestedMember]
      simp only [Option.bind_eq_bind, Option.bind_some, Option.map_some, Option.getD_some,
        Function.comp_apply, hslots, plain?, hmodelTypes, hspecsRead]
      rfl

/-! ### The round trip -/

theorem slotKeys_congr {slots others : List (Slot ConfigClass)}
    (h : List.Forall₂ (fun slot other => slot.name = other.name ∧
      slot.flattened = other.flattened ∧ slot.child.consumedKeys = other.child.consumedKeys)
        slots others) : slotKeys slots = slotKeys others := by
  induction h with
  | nil => rfl
  | @cons slot other _ _ hslot _ ih =>
      obtain ⟨hname, hflattened, hkeys⟩ := hslot
      rw [slotKeys, slotKeys, hname, hflattened, hkeys, ih]

/-- Defaults are no matter for the keys that a class looks at. -/
theorem consumedKeys_withoutNullDefaults (c : ConfigClass) :
    c.withoutNullDefaults.consumedKeys = c.consumedKeys := by
  induction c using slotInduction with
  | node c ih =>
      obtain ⟨name, modelTypes, fields, slots⟩ := c
      have hslots : slotKeys (slotsWithoutNullDefaults slots) = slotKeys slots := by
        rw [slotsWithoutNullDefaults_eq_map]
        refine slotKeys_congr ?_
        rw [List.forall₂_map_left_iff, List.forall₂_same]
        exact fun slot hslot => ⟨rfl, rfl, ih slot hslot⟩
      rw [withoutNullDefaults, consumedKeys, consumedKeys, hslots, List.map_map]
      rfl

/-- **Classes survive publication**. What a class is written as has the format for classes, and so
has the value of it as a text. Whatever has the format is read, as a class that looks at the same
keys; and what is read is the class itself, with the same check and the same configurations,
exactly if no default is null at any depth. -/
theorem survives_publication (hdefaults : c.ProperDefaults) :
    (∃ v, (Document.ofJson c.toJson).toJson? = some v ∧ c.Published v) ∧
    c.Published c.toJson ∧
    ∀ v, c.Published v → ∃ read, ofJson? v = some read ∧ read.consumedKeys = c.consumedKeys ∧
      (read = c ↔ c.NoNullDefaults) ∧
      (c.NoNullDefaults → read.checkWellFormed = c.checkWellFormed ∧
        ∀ provenance slot raw, Config.instantiate provenance slot raw read =
          Config.instantiate provenance slot raw c) := by
  obtain ⟨v, hv⟩ := Document.exists_toJson?_ofJson c.toJson
  refine ⟨⟨v, hv, c.published_toJson.toJson? hdefaults hv⟩, c.published_toJson, fun v h => ?_⟩
  have hself := c.withoutNullDefaults_eq_self_iff
  refine ⟨_, ofJson?_of_published hdefaults h, c.consumedKeys_withoutNullDefaults, hself, ?_⟩
  intro hnull
  rw [hself.mpr hnull]
  exact ⟨rfl, fun _ _ _ => rfl⟩

theorem properDefaults_split : split.ProperDefaults := by
  have hroot : ∀ spec ∈ split.fields, ∀ v, spec.default = some v → v = .bool false := by decide
  refine .intro (fun spec hspec v hv => hroot spec hspec v hv ▸ .bool false) ?_
  refine List.forall_mem_singleton.mpr (.intro ?_ (List.forall_mem_singleton.mpr (.leaf rfl ?_)))
  all_goals exact List.forall_mem_singleton.mpr fun v hv => by cases hv

theorem noNullDefaults_split : split.NoNullDefaults := by
  refine .intro (by decide) ?_
  refine List.forall_mem_singleton.mpr (.intro ?_ (List.forall_mem_singleton.mpr (.leaf rfl ?_)))
  all_goals decide

/-- The class `split`, which has a default and a slot below a slot, is read from what it is written
as. A class with a default of null is read as another class. -/
theorem split_survives_publication :
    ofJson? split.toJson = some split ∧
    let nullable := (empty "NullableConfig").withField
      ((FieldSpec.optional "head_dim" .any).withDefault .null)
    ∃ read, ofJson? nullable.toJson = some read ∧ read ≠ nullable := by
  constructor
  · obtain ⟨-, hwritten, hformat⟩ := survives_publication properDefaults_split
    obtain ⟨read, hread, -, hself, -⟩ := hformat _ hwritten
    rw [hread, hself.mpr noNullDefaults_split]
  · intro nullable
    have hproper : nullable.ProperDefaults :=
      .leaf rfl (List.forall_mem_singleton.mpr fun v hv => Option.some.inj hv ▸ .null)
    obtain ⟨-, hwritten, hformat⟩ := survives_publication hproper
    obtain ⟨read, hread, -, hself, -⟩ := hformat _ hwritten
    refine ⟨read, hread, fun heq => ?_⟩
    cases hself.mp heq with
    | intro hnull _ => exact hnull _ List.mem_cons_self rfl

end ConfigClass

end ModelRegistry
