import ModelRegistry.Proofs.Config.Acceptance
import ModelRegistry.Proofs.Json.Values

/-!
# ModelRegistry.Proofs.Config.Satisfiability

Which classes accept any object at all. The check of a class compares the names
within one class, but a flattened child reads the object of its parent: what two
levels of a class ask for under one key need not go together, and then no object
is accepted although the check passes.

`ConfigClass.demands` lists all that a class asks of the object that it is read
from. Demands `Clash` if a value that must be there would have to be of types that
have no value in common, in that object or in one below it. Nothing else stands in
the way: a class whose demands do not clash accepts an object, which is built from
a value for each key that must have one (`exists_object`).
-/

namespace ModelRegistry

/-! ## Types with a value in common -/

/-- A plain value of the same kind. -/
def Json.plain : Json → Json
  | .null => .null
  | .bool _ => .bool false
  | .number _ => .int 0
  | .string _ => .string ""
  | .array _ => .array []
  | .object _ => .object []

namespace FieldType

/-- A plain value of the type, which types with other values of the same kind share. -/
def plain : FieldType → Json
  | .bool | .any => .bool false
  | .integer | .float => .int 0
  | .string => .string ""
  | .integerList | .stringList => .array []
  | .object => .object []

/-- The two types have a value in common, other than null. -/
def Meets (s t : FieldType) : Prop :=
  ∃ v, v ≠ Json.null ∧ (FieldValue.ofJson? s v).isSome ∧ (FieldValue.ofJson? t v).isSome

theorem isSome_ofJson?_plain (t : FieldType) : (FieldValue.ofJson? t t.plain).isSome := by
  cases t <;> rfl

theorem plain_ne_null (t : FieldType) : t.plain ≠ .null := by
  cases t <;> simp [plain, Json.int]

theorem proper_plain (t : FieldType) : t.plain.Proper := by
  cases t with
  | bool | any => exact .bool false
  | integer | float => exact .integer (by decide) (by decide)
  | string => exact .string ""
  | integerList | stringList => exact .array (by simp)
  | object => exact .object Members.sorted_nil (by simp)

/-- Apart from `any`, a type takes values of one kind only. -/
theorem plain_of_ofJson? {t : FieldType} {v : Json} (h : (FieldValue.ofJson? t v).isSome) :
    t = .any ∨ v.plain = t.plain := by
  cases t with
  | any => exact .inl rfl
  | bool =>
      cases v with
      | bool b => exact .inr rfl
      | _ => simp [FieldValue.ofJson?, Json.bool?] at h
  | integer =>
      cases v with
      | number x => exact .inr rfl
      | _ => simp [FieldValue.ofJson?, Json.int64?] at h
  | float =>
      cases v with
      | number x => exact .inr rfl
      | _ => simp [FieldValue.ofJson?, Json.float?] at h
  | string =>
      cases v with
      | string s => exact .inr rfl
      | _ => simp [FieldValue.ofJson?, Json.string?] at h
  | integerList | stringList =>
      cases v with
      | array items => exact .inr rfl
      | _ => simp [FieldValue.ofJson?, Json.array?] at h
  | object =>
      cases v with
      | object members => exact .inr rfl
      | _ => simp [FieldValue.ofJson?, Json.object?] at h

/-- Integers meet floats, and lists meet lists; for the rest a type meets itself and `any`. -/
theorem meets_iff (s t : FieldType) : s.Meets t ↔ s = .any ∨ t = .any ∨ s.plain = t.plain := by
  constructor
  · intro hmeets
    obtain ⟨v, -, hs, ht⟩ := hmeets
    rcases plain_of_ofJson? hs with hany | hs
    · exact .inl hany
    · rcases plain_of_ofJson? ht with hany | ht
      · exact .inr (.inl hany)
      · exact .inr (.inr (hs.symm.trans ht))
  · rintro (rfl | rfl | hplain)
    · exact ⟨t.plain, t.plain_ne_null, rfl, t.isSome_ofJson?_plain⟩
    · exact ⟨s.plain, s.plain_ne_null, s.isSome_ofJson?_plain, rfl⟩
    · exact ⟨s.plain, s.plain_ne_null, s.isSome_ofJson?_plain, hplain ▸ t.isSome_ofJson?_plain⟩

/-- Types that meet in pairs have a value in common. -/
theorem exists_common_value {types : List FieldType}
    (h : ∀ s ∈ types, ∀ t ∈ types, s.Meets t) :
    ∃ v : Json, v ≠ .null ∧ v.Proper ∧ ∀ t ∈ types, (FieldValue.ofJson? t v).isSome := by
  by_cases hany : ∀ t ∈ types, t = .any
  · refine ⟨FieldType.plain .any, plain_ne_null _, proper_plain _, ?_⟩
    intro t ht
    rw [hany t ht]
    rfl
  · obtain ⟨s, hs⟩ := not_forall.mp hany
    obtain ⟨hs, hne⟩ := Classical.not_imp.mp hs
    refine ⟨s.plain, s.plain_ne_null, s.proper_plain, ?_⟩
    intro t ht
    rcases (meets_iff s t).mp (h s hs t ht) with heq | rfl | hplain
    · exact absurd heq hne
    · rfl
    · rw [hplain]
      exact t.isSome_ofJson?_plain

/-- A type that meets objects takes all of them. -/
theorem isSome_ofJson?_object {t : FieldType} (h : t.Meets .object) (members : Json.Object) :
    (FieldValue.ofJson? t (.object members)).isSome := by
  rcases (meets_iff t .object).mp h with rfl | heq | hplain
  · rfl
  · cases heq
  · cases t with
    | object => rfl
    | _ => simp [plain, Json.int] at hplain

end FieldType

/-! ## Demands -/

/-- What is wanted under a key: a value of a type, or an object for a class. -/
inductive Wanted where
  | value (type : FieldType)
  | config (child : ConfigClass)

/-- The type of what is wanted. -/
def Wanted.type : Wanted → FieldType
  | .value type => type
  | .config _ => .object

/-- What a field or a subtree slot asks of an object. -/
structure Demand where
  key : String
  required : Bool
  wanted : Wanted

/-- What a field asks of an object. -/
def FieldSpec.demand (spec : FieldSpec) : Demand := ⟨spec.name, spec.required, .value spec.type⟩

/-- What a subtree slot asks of an object. -/
def Slot.demand (slot : Slot ConfigClass) : Demand :=
  ⟨slot.name, slot.required, .config slot.child⟩

namespace ConfigClass

mutual

/-- All that a class asks of the object that it is read from: what its fields and its subtree
slots ask, and what its flattened children ask. -/
def demands : ConfigClass → List Demand
  | .mk _ _ fields slots => fields.map FieldSpec.demand ++ slotDemands slots

/-- All that a list of slots asks of the object. -/
def slotDemands : List (Slot ConfigClass) → List Demand
  | [] => []
  | ⟨name, child, required, flattened⟩ :: rest =>
    (if flattened then demands child else [⟨name, required, .config child⟩]) ++ slotDemands rest

end

theorem mem_slotDemands (slots : List (Slot ConfigClass)) (d : Demand) :
    d ∈ slotDemands slots ↔ ∃ slot ∈ slots,
      (slot.flattened = true ∧ d ∈ slot.child.demands) ∨
        (slot.flattened = false ∧ d = slot.demand) := by
  induction slots with
  | nil => simp [slotDemands]
  | cons slot rest ih =>
      obtain ⟨name, child, required, flattened⟩ := slot
      cases flattened <;> simp [slotDemands, Slot.demand, ih]

theorem mem_demands (c : ConfigClass) (d : Demand) :
    d ∈ c.demands ↔ (∃ spec ∈ c.fields, d = spec.demand) ∨ ∃ slot ∈ c.slots,
      (slot.flattened = true ∧ d ∈ slot.child.demands) ∨
        (slot.flattened = false ∧ d = slot.demand) := by
  obtain ⟨name, modelTypes, fields, slots⟩ := c
  rw [demands, List.mem_append, mem_slotDemands, List.mem_map, ConfigClass.fields,
    ConfigClass.slots]
  simp only [eq_comm]

theorem sizeOf_child_lt {c : ConfigClass} {slot : Slot ConfigClass} (h : slot ∈ c.slots) :
    sizeOf slot.child < sizeOf c := by
  obtain ⟨name, modelTypes, fields, slots⟩ := c
  have hslots : sizeOf slot < sizeOf slots := List.sizeOf_lt_of_mem h
  have hchild : sizeOf slot.child < sizeOf slot := by
    obtain ⟨name, child, required, flattened⟩ := slot
    simp only [Slot.mk.sizeOf_spec]
    omega
  simp only [ConfigClass.mk.sizeOf_spec]
  omega

/-- A class that is wanted below another one is smaller. -/
theorem sizeOf_wanted_lt {c child : ConfigClass} {d : Demand} (hd : d ∈ c.demands)
    (hwanted : d.wanted = .config child) : sizeOf child < sizeOf c := by
  induction c using slotInduction with
  | node c ih =>
      rcases (mem_demands c d).mp hd with ⟨spec, -, rfl⟩ | ⟨slot, hslot, ⟨-, hd⟩ | ⟨-, rfl⟩⟩
      · cases hwanted
      · exact (ih slot hslot hd).trans (sizeOf_child_lt hslot)
      · obtain rfl := Wanted.config.inj hwanted
        exact sizeOf_child_lt hslot

end ConfigClass

namespace Config

variable {ds : List Demand} {raw : Json.Object}

/-- The value is what is wanted. -/
def FitsWanted (v : Json) : Wanted → Prop
  | .value type => (FieldValue.ofJson? type v).isSome
  | .config child => ∃ members, v = .object members ∧ Accepts child members

/-- The object meets a demand. -/
structure MeetsDemand (raw : Json.Object) (d : Demand) : Prop where
  filled : d.required = true → ∃ v, Holds raw d.key v
  fits : ∀ v, Holds raw d.key v → FitsWanted v d.wanted

theorem FitsWanted.type {v : Json} {w : Wanted} (h : FitsWanted v w) :
    (FieldValue.ofJson? w.type v).isSome := by
  cases w with
  | value type => exact h
  | config child =>
      obtain ⟨members, rfl, -⟩ := h
      rfl

theorem fieldFits_iff_meetsDemand (spec : FieldSpec) :
    FieldFits raw spec ↔ MeetsDemand raw spec.demand :=
  ⟨fun h => ⟨h.filled, h.typed⟩, fun h => ⟨h.filled, h.fits⟩⟩

theorem slotFits_iff_meetsDemand {slot : Slot ConfigClass} (hflat : slot.flattened = false) :
    SlotFits raw slot ↔ MeetsDemand raw slot.demand := by
  constructor
  · intro hfits
    cases hfits with
    | flattened h => simp [hflat] at h
    | empty _ hrequired hnone =>
        exact ⟨fun h => absurd (hrequired.symm.trans h) (by simp), fun v hv => (hnone v hv).elim⟩
    | subtree _ hholds haccepts =>
        exact ⟨fun _ => ⟨_, hholds⟩, fun v hv => ⟨_, hv.unique hholds, haccepts⟩⟩
  · intro hmeets
    by_cases hholds : ∃ v, Holds raw slot.name v
    · obtain ⟨v, hv⟩ := hholds
      obtain ⟨members, rfl, haccepts⟩ := hmeets.fits v hv
      exact .subtree hflat hv haccepts
    · have hrequired : slot.required = false :=
        Bool.eq_false_iff.mpr fun h => hholds (hmeets.filled h)
      exact .empty hflat hrequired fun v hv => hholds ⟨v, hv⟩

/-- A class accepts the objects that meet its demands. -/
theorem accepts_iff_meetsDemands (c : ConfigClass) (raw : Json.Object) :
    Accepts c raw ↔ ∀ d ∈ c.demands, MeetsDemand raw d := by
  induction c using ConfigClass.slotInduction with
  | node c ih =>
      constructor
      · intro haccepts d hd
        obtain ⟨hfields, hslots⟩ := haccepts
        rcases (c.mem_demands d).mp hd with
          ⟨spec, hspec, rfl⟩ | ⟨slot, hslot, ⟨hflat, hd⟩ | ⟨hflat, rfl⟩⟩
        · exact (fieldFits_iff_meetsDemand spec).mp (hfields spec hspec)
        · cases hslots slot hslot with
          | flattened _ hchild => exact (ih slot hslot).mp hchild d hd
          | empty h => simp [hflat] at h
          | subtree h => simp [hflat] at h
        · exact (slotFits_iff_meetsDemand hflat).mp (hslots slot hslot)
      · intro hmeets
        refine .intro (fun spec hspec => ?_) (fun slot hslot => ?_)
        · exact (fieldFits_iff_meetsDemand spec).mpr
            (hmeets _ ((c.mem_demands _).mpr (.inl ⟨spec, hspec, rfl⟩)))
        · cases hflat : slot.flattened with
          | true =>
              refine .flattened hflat ((ih slot hslot).mpr fun d hd => ?_)
              exact hmeets d ((c.mem_demands d).mpr (.inr ⟨slot, hslot, .inl ⟨hflat, hd⟩⟩))
          | false =>
              exact (slotFits_iff_meetsDemand hflat).mpr
                (hmeets _ ((c.mem_demands _).mpr (.inr ⟨slot, hslot, .inr ⟨hflat, rfl⟩⟩)))

/-! ## Clashes -/

/-- What is asked of the object under a key, by all classes that are wanted there. -/
def below (key : String) (ds : List Demand) : List Demand :=
  ds.flatMap fun d =>
    match d.wanted with
    | .config child => if d.key = key then child.demands else []
    | .value _ => []

theorem mem_below {key : String} {d : Demand} :
    d ∈ below key ds ↔
      ∃ e ∈ ds, ∃ child, e.wanted = .config child ∧ e.key = key ∧ d ∈ child.demands := by
  rw [below, List.mem_flatMap]
  refine exists_congr fun e => and_congr_right fun _ => ?_
  cases e.wanted with
  | value type => simp
  | config child => simp

/-- The demands have no object: under a key that must have a value, two of them want types that
do not meet, or what is wanted there clashes in turn. -/
inductive Clash : List Demand → Prop where
  | types {ds : List Demand} {a d e : Demand} : a ∈ ds → a.required = true →
      d ∈ ds → d.key = a.key → e ∈ ds → e.key = a.key → ¬ d.wanted.type.Meets e.wanted.type →
      Clash ds
  | nested {ds : List Demand} {a : Demand} : a ∈ ds → a.required = true →
      Clash (below a.key ds) → Clash ds

theorem meets_of_not_clash (h : ¬ Clash ds) {a : Demand} (ha : a ∈ ds)
    (hrequired : a.required = true) : ∀ d ∈ ds, d.key = a.key → ∀ e ∈ ds, e.key = a.key →
      d.wanted.type.Meets e.wanted.type := by
  intro d hd hdkey e he hekey
  exact Classical.byContradiction fun hne => h (.types ha hrequired hd hdkey he hekey hne)

/-- An object that meets demands has, under a key, an object that meets those below. -/
theorem meetsDemand_of_mem_below {key : String} {v : Json}
    (hmeets : ∀ d ∈ ds, MeetsDemand raw d) (hv : Holds raw key v) {d : Demand}
    (hd : d ∈ below key ds) : MeetsDemand (v.object?.getD []) d := by
  obtain ⟨e, he, child, hwanted, rfl, hchild⟩ := mem_below.mp hd
  have hfits := (hmeets e he).fits v hv
  rw [hwanted] at hfits
  obtain ⟨members, rfl, haccepts⟩ := hfits
  exact (accepts_iff_meetsDemands child members).mp haccepts d hchild

theorem not_meetsDemands_of_clash (h : Clash ds) (raw : Json.Object) :
    ¬ ∀ d ∈ ds, MeetsDemand raw d := by
  induction h generalizing raw with
  | types ha hrequired hd hdkey he hekey hne =>
      intro hmeets
      obtain ⟨v, hv⟩ := (hmeets _ ha).filled hrequired
      have hdfits := (hmeets _ hd).fits v (hdkey ▸ hv)
      have hefits := (hmeets _ he).fits v (hekey ▸ hv)
      exact hne ⟨v, hv.2, hdfits.type, hefits.type⟩
  | nested ha hrequired _ ih =>
      intro hmeets
      obtain ⟨v, hv⟩ := (hmeets _ ha).filled hrequired
      exact ih (v.object?.getD []) fun d hd => meetsDemand_of_mem_below hmeets hv hd

/-! ## Objects for demands that do not clash -/

/-- Under a key, demands of types that meet can be met together, if those below can. -/
theorem exists_value {key : String}
    (hmeets : ∀ d ∈ ds, d.key = key → ∀ e ∈ ds, e.key = key → d.wanted.type.Meets e.wanted.type)
    (hbelow : ∀ d ∈ ds, ∀ child, d.wanted = .config child →
      ∃ members, (Json.object members).Proper ∧ ∀ e ∈ below key ds, MeetsDemand members e) :
    ∃ v : Json, v ≠ .null ∧ v.Proper ∧ ∀ d ∈ ds, d.key = key → FitsWanted v d.wanted := by
  by_cases hconfig : ∃ d ∈ ds, d.key = key ∧ ∃ child, d.wanted = .config child
  · -- Some class is wanted here, so that the value is an object, for all such classes at once.
    obtain ⟨d, hd, hdkey, child, hchild⟩ := hconfig
    obtain ⟨members, hproper, hmembers⟩ := hbelow d hd child hchild
    refine ⟨.object members, by simp, hproper, ?_⟩
    intro e he hekey
    have htype := hmeets e he hekey d hd hdkey
    rw [hchild] at htype
    cases hwanted : e.wanted with
    | value type =>
        rw [hwanted] at htype
        exact FieldType.isSome_ofJson?_object htype members
    | config other =>
        refine ⟨members, rfl, (accepts_iff_meetsDemands other members).mpr fun k hk => ?_⟩
        exact hmembers k (mem_below.mpr ⟨e, he, other, hwanted, hekey, hk⟩)
  · let types := (ds.filter fun d => d.key = key).map fun d => d.wanted.type
    have hmem : ∀ d ∈ ds, d.key = key → d.wanted.type ∈ types := fun d hd hkey =>
      List.mem_map_of_mem (List.mem_filter.mpr ⟨hd, by simpa using hkey⟩)
    have htypes : ∀ s ∈ types, ∀ t ∈ types, s.Meets t := by
      intro s hs t ht
      obtain ⟨d, hd, rfl⟩ := List.mem_map.mp hs
      obtain ⟨e, he, rfl⟩ := List.mem_map.mp ht
      rw [List.mem_filter, decide_eq_true_eq] at hd he
      exact hmeets d hd.1 hd.2 e he.1 he.2
    obtain ⟨v, hne, hproper, hv⟩ := FieldType.exists_common_value htypes
    refine ⟨v, hne, hproper, ?_⟩
    intro d hd hkey
    have htype := hv _ (hmem d hd hkey)
    cases hwanted : d.wanted with
    | value type =>
        rw [hwanted] at htype
        exact htype
    | config child => exact (hconfig ⟨d, hd, hkey, child, hwanted⟩).elim

/-- Demands that can be met key by key are met by an object with these values. -/
theorem exists_object_of_values
    (h : ∀ a ∈ ds, a.required = true →
      ∃ v : Json, v ≠ .null ∧ v.Proper ∧ ∀ d ∈ ds, d.key = a.key → FitsWanted v d.wanted) :
    ∃ raw, (Json.object raw).Proper ∧ ∀ d ∈ ds, MeetsDemand raw d := by
  have hkeys : ∀ key, ∃ v : Json, (∃ a ∈ ds, a.required = true ∧ a.key = key) →
      v ≠ .null ∧ v.Proper ∧ ∀ d ∈ ds, d.key = key → FitsWanted v d.wanted := by
    intro key
    by_cases hkey : ∃ a ∈ ds, a.required = true ∧ a.key = key
    · obtain ⟨a, ha, hrequired, rfl⟩ := hkey
      obtain ⟨v, hv⟩ := h a ha hrequired
      exact ⟨v, fun _ => hv⟩
    · exact ⟨.null, fun hsome => absurd hsome hkey⟩
  choose value hvalue using hkeys
  let entries := (ds.filter (·.required)).map fun a => (a.key, value a.key)
  have hentry : ∀ key v, (key, v) ∈ entries ↔
      (∃ a ∈ ds, a.required = true ∧ a.key = key) ∧ v = value key := by
    intro key v
    simp only [entries, List.mem_map, List.mem_filter, Prod.mk.injEq]
    constructor
    · rintro ⟨a, ⟨ha, hrequired⟩, rfl, rfl⟩
      exact ⟨⟨a, ha, hrequired, rfl⟩, rfl⟩
    · rintro ⟨⟨a, ha, hrequired, rfl⟩, rfl⟩
      exact ⟨a, ⟨ha, hrequired⟩, rfl, rfl⟩
  have hsorted := Members.sorted_ofList entries
  refine ⟨Members.ofList entries, .object hsorted ?_, ?_⟩
  · intro member hmember
    obtain ⟨hsome, hv⟩ := (hentry member.1 member.2).mp (Members.mem_of_mem_ofList hmember)
    rw [hv]
    exact (hvalue member.1 hsome).2.1
  · intro d hd
    constructor
    · intro hrequired
      have hmem : (d.key, value d.key) ∈ entries :=
        (hentry d.key _).mpr ⟨⟨d, hd, hrequired, rfl⟩, rfl⟩
      refine ⟨value d.key, ?_, (hvalue d.key ⟨d, hd, hrequired, rfl⟩).1⟩
      have hkey : d.key ∈ Members.keys entries.reverse :=
        List.mem_map.mpr ⟨_, List.mem_reverse.mpr hmem, rfl⟩
      obtain ⟨v, hv⟩ := Option.isSome_iff_exists.mp ((Members.mem_keys_iff _ _).mp hkey)
      rw [← Members.lookup_ofList] at hv
      have hin := Members.mem_of_mem_ofList ((Members.mem_iff_lookup hsorted _ _).mpr hv)
      rw [hv, ((hentry d.key v).mp hin).2]
    · intro v hv
      have hin := Members.mem_of_mem_ofList ((Members.mem_iff_lookup hsorted _ _).mpr hv.1)
      obtain ⟨hsome, rfl⟩ := (hentry d.key v).mp hin
      exact (hvalue d.key hsome).2.2 d hd rfl

/-- Demands that do not clash are met by an object. The induction is on a bound for the classes
that are wanted, which are smaller one object further down. -/
theorem exists_object (bound : Nat)
    (hbound : ∀ d ∈ ds, ∀ child, d.wanted = .config child → sizeOf child < bound)
    (h : ¬ Clash ds) : ∃ raw, (Json.object raw).Proper ∧ ∀ d ∈ ds, MeetsDemand raw d := by
  induction bound generalizing ds with
  | zero =>
      refine exists_object_of_values fun a ha hrequired =>
        exists_value (meets_of_not_clash h ha hrequired) ?_
      intro d hd child hwanted
      exact absurd (hbound d hd child hwanted) (Nat.not_lt_zero _)
  | succ bound ih =>
      refine exists_object_of_values fun a ha hrequired =>
        exists_value (meets_of_not_clash h ha hrequired) ?_
      intro _ _ _ _
      refine ih ?_ fun hclash => h (.nested ha hrequired hclash)
      intro d hd child hwanted
      obtain ⟨e, he, parent, hparent, -, hd⟩ := mem_below.mp hd
      exact Nat.lt_of_lt_of_le (ConfigClass.sizeOf_wanted_lt hd hwanted)
        (Nat.le_of_lt_succ (hbound e he parent hparent))

/-- Where demands do not clash, some object is read. -/
theorem exists_read_of_not_clash {c : ConfigClass} (hc : c.checkWellFormed = .ok ())
    (hclash : ¬ Clash c.demands) (provenance : Provenance) (slot : Option String) :
    ∃ raw, (Json.object raw).Proper ∧ ∃ d, instantiate provenance slot raw c = .ok d := by
  obtain ⟨raw, hproper, hmeets⟩ := exists_object (sizeOf c)
    (fun d hd child hwanted => ConfigClass.sizeOf_wanted_lt hd hwanted) hclash
  have haccepts := (accepts_iff_meetsDemands c raw).mpr hmeets
  exact ⟨raw, hproper, (instantiate_succeeds_iff_accepts hc provenance slot raw).mpr haccepts⟩

/-- Where demands clash, every object is refused. -/
theorem refuses_of_clash {c : ConfigClass} (hc : c.checkWellFormed = .ok ())
    (hclash : Clash c.demands) (provenance : Provenance) (slot : Option String)
    (raw : Json.Object) : ∃ v, instantiate provenance slot raw c = .error v := by
  cases hread : instantiate provenance slot raw c with
  | error v => exact ⟨v, rfl⟩
  | ok d =>
      have haccepts := (instantiate_succeeds_iff_accepts hc provenance slot raw).mp ⟨d, hread⟩
      exact absurd ((accepts_iff_meetsDemands c raw).mp haccepts)
        (not_meetsDemands_of_clash hclash raw)

/-- A class that passes its check refuses every object exactly if its demands clash. -/
theorem refuses_all_iff_clash {c : ConfigClass} (hc : c.checkWellFormed = .ok ())
    (provenance : Provenance) (slot : Option String) :
    (∀ raw, ∃ v, instantiate provenance slot raw c = .error v) ↔ Clash c.demands := by
  constructor
  · intro hrefuses
    refine Classical.byContradiction fun hclash => ?_
    obtain ⟨raw, -, d, hread⟩ := exists_read_of_not_clash hc hclash provenance slot
    obtain ⟨v, hv⟩ := hrefuses raw
    rw [hread] at hv
    cases hv
  · intro hclash raw
    exact refuses_of_clash hc hclash provenance slot raw

/-! ## Main theorem -/

/-- **Classes that can be satisfied**: a class that passes its check reads some proper object, if
what its levels demand of one object does not clash, and otherwise refuses every object. -/
theorem satisfied_unless_demands_clash {c : ConfigClass} (hc : c.checkWellFormed = .ok ())
    (provenance : Provenance) (slot : Option String) :
    (¬ Clash c.demands → ∃ raw, (Json.object raw).Proper ∧
      ∃ d, instantiate provenance slot raw c = .ok d) ∧
    (Clash c.demands → ∀ raw, ∃ v, instantiate provenance slot raw c = .error v) := by
  constructor
  · intro hclash
    exact exists_read_of_not_clash hc hclash provenance slot
  · intro hclash raw
    exact refuses_of_clash hc hclash provenance slot raw

/-- Its own `size` is an integer, and the flattened text model reads the same key as a string. -/
def twoSizes : ConfigClass :=
  .mk "TwoSizesConfig" [] [.mandatory "size" .integer]
    [.flatten "text_config" (.mk "TextConfig" [] [.mandatory "size" .string] [])]

/-- Its own `size` is an integer, and the flattened text model reads the same key as a float. -/
def oneSize : ConfigClass :=
  .mk "OneSizeConfig" [] [.mandatory "size" .integer]
    [.flatten "text_config" (.mk "TextConfig" [] [.mandatory "size" .float] [])]

/-- An integer is a float, so that the two levels of the class have objects in common. -/
theorem one_size_is_satisfied :
    oneSize.checkWellFormed = .ok () ∧ ¬ Clash oneSize.demands ∧
      ∃ raw, (Json.object raw).Proper ∧
        ∃ d, instantiate ⟨"OneSize", .explicitMapping⟩ none raw oneSize = .ok d := by
  have hclash : ¬ Clash oneSize.demands := by
    have hdemands : oneSize.demands =
        [⟨"size", true, .value .integer⟩, ⟨"size", true, .value .float⟩] := rfl
    rw [hdemands]
    intro h
    cases h with
    | types _ _ hd _ he _ hne =>
        rw [List.mem_pair] at hd he
        refine hne ((FieldType.meets_iff _ _).mpr (.inr (.inr ?_)))
        rcases hd with rfl | rfl <;> rcases he with rfl | rfl <;> rfl
    | nested _ _ h =>
        -- No class is wanted anywhere, so nothing is asked further down.
        cases h with
        | types ha => cases ha
        | nested ha => cases ha
  exact ⟨rfl, hclash, (satisfied_unless_demands_clash rfl _ none).1 hclash⟩

/-- No value is an integer and a string, so that the class refuses every object, though it passes
its check. -/
theorem two_sizes_refuse_everything :
    twoSizes.checkWellFormed = .ok () ∧ ∀ provenance slot raw,
      ∃ v, instantiate provenance slot raw twoSizes = .error v := by
  have hclash : Clash twoSizes.demands := by
    have hdemands : twoSizes.demands =
        [⟨"size", true, .value .integer⟩, ⟨"size", true, .value .string⟩] := rfl
    rw [hdemands]
    refine .types (.head _) rfl (.head _) rfl (.tail _ (.head _)) rfl ?_
    rw [FieldType.meets_iff]
    decide
  exact ⟨rfl, fun provenance slot raw => refuses_of_clash rfl hclash provenance slot raw⟩

end Config

end ModelRegistry
