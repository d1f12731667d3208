import ModelRegistry.Proofs.Config.Conformance
import ModelRegistry.Proofs.Config.Dependence
import ModelRegistry.Proofs.Config.FieldValue

/-!
# ModelRegistry.Proofs.Config.Rebuilding

Descriptors written back as raw objects. `Descriptor.rawObject` is the object that a
descriptor stands for: what no class looked at, the fields as JSON, and under each
slot the object of the descriptor in it. A class without flattened slots reads that
object into the same descriptor again.

The proof goes part by part. `lookup_rawObject` says what the rebuilt object has
under a key; from it every field and every slot is read as it was read before
(`readField_of_written`, `readSlot_of_written`), and the keys left over are those
of `extra`.
-/

namespace ModelRegistry

namespace Descriptor

mutual

/-- The raw object that the descriptor stands for: the keys no class looked at, the fields
written back, and under each slot the raw object of the descriptor there. -/
def rawObject : Descriptor → Json.Object
  | .mk _ _ _ fields nested extra =>
    Members.ofList <|
      extra ++ fields.map (fun field => (field.1, field.2.toJson)) ++ rawSlots nested

/-- The raw objects of nested descriptors, under their slots. -/
def rawSlots : List Descriptor → Json.Object
  | [] => []
  | d :: rest => (d.slot.getD "", .object (rawObject d)) :: rawSlots rest

end

theorem rawObject_eq (d : Descriptor) :
    d.rawObject = Members.ofList
      (d.extra ++ d.fields.map (fun field => (field.1, field.2.toJson)) ++ rawSlots d.nested) := by
  cases d
  rfl

/-- What stands under a key of the rebuilt object, if no part has a key twice. -/
theorem lookup_rawObject {d : Descriptor} (hextra : Members.Sorted d.extra)
    (hfields : Members.Sorted d.fields) (hnested : (Members.keys (rawSlots d.nested)).Nodup)
    (key : String) :
    d.rawObject.lookup key =
      (((rawSlots d.nested).lookup key).or ((d.get? key).map FieldValue.toJson)).or
        (d.extra.lookup key) := by
  have hwritten : (Members.keys (d.fields.map fun field => (field.1, field.2.toJson))).Nodup := by
    rw [Members.keys_map]
    exact hfields.nodup
  rw [rawObject_eq, Members.lookup_ofList, List.reverse_append, List.reverse_append,
    List.lookup_append, List.lookup_append, Members.lookup_reverse_of_nodup hnested,
    Members.lookup_reverse_of_nodup hwritten, Members.lookup_reverse_of_nodup hextra.nodup,
    Members.lookup_map, Option.or_assoc, get?]

end Descriptor

namespace ConfigClass

/-- Something holds of a class and of all classes below it. -/
inductive Everywhere (p : ConfigClass → Prop) : ConfigClass → Prop where
  | intro {c : ConfigClass} : p c → (∀ slot ∈ c.slots, Everywhere p slot.child) → Everywhere p c

theorem Everywhere.leaf {p : ConfigClass → Prop} {c : ConfigClass} (hslots : c.slots = [])
    (h : p c) : Everywhere p c :=
  .intro h (hslots ▸ List.forall_mem_nil _)

/-- No slot of the class is flattened, at any depth. -/
def Unflattened : ConfigClass → Prop :=
  Everywhere fun c => ∀ slot ∈ c.slots, slot.flattened = false

/-- The defaults of the class are values that a JSON text can write, at any depth. -/
def ProperDefaults : ConfigClass → Prop :=
  Everywhere fun c => ∀ spec ∈ c.fields, ∀ v, spec.default = some v → v.Proper

/-- A class without flattened slots looks at the names of its fields and slots. -/
theorem mem_consumedKeys_of_unflattened {c : ConfigClass}
    (hplain : ∀ slot ∈ c.slots, slot.flattened = false) (key : String) :
    key ∈ c.consumedKeys ↔ key ∈ c.fields.map (·.name) ++ c.slots.map (·.name) := by
  rw [mem_consumedKeys, List.mem_append, List.mem_map, List.mem_map]
  constructor
  · intro h
    cases h with
    | field hspec => exact .inl ⟨_, hspec, rfl⟩
    | subtree hslot hflat => exact .inr ⟨_, hslot, rfl⟩
    | flattened hslot hflat => simp [hplain _ hslot] at hflat
  · intro h
    obtain ⟨spec, hspec, rfl⟩ | ⟨slot, hslot, rfl⟩ := h
    · exact .field hspec
    · exact .subtree hslot (hplain slot hslot)

end ConfigClass

namespace Config

variable {provenance : Provenance} {raw raw' : Json.Object}

/-! ## Fields -/

section Fields

variable {spec : FieldSpec} {specs : List FieldSpec} {done values : Members FieldValue}

theorem readField_of_sourced {v : Json} {value : FieldValue} (hsource : Sourced raw spec v)
    (htype : FieldValue.ofJson? spec.type v = some value) :
    readField raw spec = .ok (some value) := by
  have hread := fieldReading raw spec
  generalize readField raw spec = result at hread
  cases hread with
  | value hv htype' =>
      rw [hsource.unique hv, htype'] at htype
      rw [Option.some.inj htype]
  | absent hnone => exact (hnone v hsource).elim
  | missing hnone => exact (hnone v hsource).elim
  | heldMismatch hv htype' =>
      rw [hsource.unique (.held hv), htype'] at htype
      contradiction
  | defaultMismatch hnone hv htype' =>
      rw [hsource.unique (.default hnone hv), htype'] at htype
      contradiction

/-- A field is read again from what it is written as. Where that is null, the value came from a
null default and comes from it again. -/
theorem readField_of_written (hraw : ∀ v, Holds raw spec.name v → v.Proper)
    (hdefault : ∀ v, spec.default = some v → v.Proper) {value? : Option FieldValue}
    (hread : readField raw spec = .ok value?)
    (hwritten : raw'.lookup spec.name = value?.map FieldValue.toJson) :
    readField raw' spec = .ok value? := by
  have hreading := fieldReading raw spec
  rw [hread] at hreading
  cases hreading with
  | absent hnone hoptional =>
      rw [← hread]
      refine readField_congr (Eq.trans (b := none) ?_ ?_)
      · rw [present?, hwritten]
        rfl
      · exact ((present?_eq_none_iff raw spec.name).mpr fun v hv => hnone v (.held hv)).symm
  | @value v value hsource htype =>
      have hproper : v.Proper := by
        cases hsource with
        | held hv => exact hraw v hv
        | default _ hv => exact hdefault v hv
      by_cases hnull : value.toJson = .null
      · obtain rfl := FieldValue.toJson_eq_null hproper htype hnull
        have hnone : ∀ w, ¬ Holds raw' spec.name w := by
          intro w hw
          rw [Holds, hwritten, Option.map_some, hnull] at hw
          exact hw.2 (Option.some.inj hw.1).symm
        cases hsource with
        | held hv => exact (hv.2 rfl).elim
        | default _ hv => exact readField_of_sourced (.default hnone hv) htype
      · exact readField_of_sourced (.held ⟨hwritten, hnull⟩)
          (FieldValue.ofJson?_toJson hproper htype)

theorem sorted_readFields (hdone : Members.Sorted done)
    (h : readFields raw done specs = .ok values) : Members.Sorted values := by
  induction specs generalizing done with
  | nil =>
      obtain rfl : done = values := by simpa [readFields] using h
      exact hdone
  | cons spec rest ih =>
      rw [readFields] at h
      cases hread : readField raw spec with
      | error v => simp [hread] at h
      | ok value? =>
          cases value? with
          | none =>
              simp only [hread] at h
              exact ih hdone h
          | some value =>
              simp only [hread] at h
              exact ih (Members.sorted_insert spec.name value hdone) h

end Fields

/-! ## Slots -/

section Slots

variable {slot : Slot ConfigClass} {slots : List (Slot ConfigClass)} {nested : List Descriptor}

theorem slot_of_readSlot {d : Descriptor}
    (h : readSlot provenance raw slot = .ok (some d)) : d.slot = some slot.name := by
  have hread := slotReading provenance raw slot
  rw [h] at hread
  cases hread with
  | flattened _ hd => exact slot_of_instantiate hd
  | subtree _ _ hd => exact slot_of_instantiate hd

/-- The rebuilt object of what was read from a slot, under the name of the slot. -/
theorem rawSlots_of_readSlot {d? : Option Descriptor}
    (h : readSlot provenance raw slot = .ok d?) (rest : List Descriptor) :
    Descriptor.rawSlots (d?.toList ++ rest) =
      (d?.map fun d => (slot.name, Json.object d.rawObject)).toList ++
        Descriptor.rawSlots rest := by
  cases d? with
  | none => rfl
  | some d =>
      rw [Option.toList_some, List.singleton_append, Descriptor.rawSlots, slot_of_readSlot h]
      rfl

theorem keys_rawSlots_sublist (h : instantiateSlots provenance raw slots = .ok nested) :
    (Members.keys (Descriptor.rawSlots nested)).Sublist (slots.map (·.name)) := by
  induction slots generalizing nested with
  | nil =>
      obtain rfl : [] = nested := by simpa [instantiateSlots] using h
      exact List.Sublist.slnil
  | cons slot rest ih =>
      obtain ⟨d?, ds, hread, hrest, rfl⟩ :=
        (instantiateSlots_cons_eq_ok_iff provenance raw slot rest nested).mp h
      rw [rawSlots_of_readSlot hread, List.map_cons]
      cases d? with
      | none => exact (ih hrest).cons slot.name
      | some d => exact (ih hrest).cons_cons slot.name

theorem lookup_rawSlots (hnames : (slots.map (·.name)).Nodup)
    (h : instantiateSlots provenance raw slots = .ok nested) (hslot : slot ∈ slots)
    {d? : Option Descriptor} (hread : readSlot provenance raw slot = .ok d?) :
    (Descriptor.rawSlots nested).lookup slot.name = d?.map fun d => .object d.rawObject := by
  induction slots generalizing nested with
  | nil => exact (List.not_mem_nil hslot).elim
  | cons first rest ih =>
      obtain ⟨first?, ds, hfirst, hrest, rfl⟩ :=
        (instantiateSlots_cons_eq_ok_iff provenance raw first rest nested).mp h
      rw [List.map_cons, List.nodup_cons] at hnames
      rw [rawSlots_of_readSlot hfirst, List.lookup_append]
      rcases List.mem_cons.mp hslot with rfl | hmem
      · obtain rfl : first? = d? := Except.ok.inj (hfirst.symm.trans hread)
        have hother : (Descriptor.rawSlots ds).lookup slot.name = none :=
          Members.lookup_eq_none_of_not_mem fun hkey =>
            hnames.1 ((keys_rawSlots_sublist hrest).subset hkey)
        rw [hother, Option.or_none]
        cases first? <;> simp
      · have hne : slot.name ≠ first.name := fun heq =>
          hnames.1 (heq ▸ List.mem_map_of_mem hmem)
        rw [ih hnames.2 hrest hmem]
        cases first? <;> simp [Members.lookup_cons_of_ne hne]

/-- A subtree slot is read again from the rebuilt object of what was read from it. -/
theorem readSlot_of_written (hflat : slot.flattened = false) {d? : Option Descriptor}
    (hread : readSlot provenance raw slot = .ok d?)
    (hchild : ∀ members d, Holds raw slot.name (.object members) →
      instantiate provenance (some slot.name) members slot.child = .ok d →
      instantiate provenance (some slot.name) d.rawObject slot.child = .ok d)
    (hwritten : raw'.lookup slot.name = d?.map fun d => .object d.rawObject) :
    readSlot provenance raw' slot = .ok d? := by
  have hreading := slotReading provenance raw slot
  rw [hread] at hreading
  cases hreading with
  | flattened h => simp [hflat] at h
  | empty _ hnone hoptional =>
      rw [← hread]
      refine readSlot_congr hflat (Eq.trans (b := none) ?_ ?_)
      · rw [present?, hwritten]
        rfl
      · exact ((present?_eq_none_iff raw slot.name).mpr hnone).symm
  | @subtree members d _ hholds hd =>
      have hpresent : present? raw' slot.name = some (.object d.rawObject) :=
        (present?_eq_some_iff raw' slot.name _).mpr ⟨hwritten, by simp⟩
      simp [readSlot, hflat, subtree?, hpresent, hchild members d hholds hd]

end Slots

/-! ## Classes -/

/-- The object has the parts of a class as they were read from another one: each field as it is
written, each slot with the rebuilt object of what was read from it, and the keys that the class
does not look at as they were. -/
structure WrittenBack (provenance : Provenance) (c : ConfigClass) (raw raw' : Json.Object) :
    Prop where
  fields : ∀ spec ∈ c.fields, ∀ value?, readField raw spec = .ok value? →
    raw'.lookup spec.name = value?.map FieldValue.toJson
  slots : ∀ slot ∈ c.slots, ∀ d?, readSlot provenance raw slot = .ok d? →
    raw'.lookup slot.name = d?.map fun d => .object d.rawObject
  others : ∀ key, key ∉ c.consumedKeys → raw'.lookup key = raw.lookup key

/-- What the rebuilt object has under a key: what a slot or a field was read as, else what the
object had under it. -/
theorem lookup_rawObject_of_reads {c : ConfigClass} (hnames : (c.slots.map (·.name)).Nodup)
    (hraw : Members.Sorted raw) {values : Members FieldValue} {nested : List Descriptor}
    (hvalues : readFields raw [] c.fields = .ok values)
    (hnested : instantiateSlots provenance raw c.slots = .ok nested) (slot : Option String)
    (key : String) :
    (Descriptor.mk provenance c.name slot values nested
        (unconsumed c.consumedKeys raw)).rawObject.lookup key =
      (((Descriptor.rawSlots nested).lookup key).or ((values.lookup key).map FieldValue.toJson)).or
        (if key ∈ c.consumedKeys then none else raw.lookup key) := by
  have hslots : (Members.keys (Descriptor.rawSlots nested)).Nodup :=
    (keys_rawSlots_sublist hnested).nodup hnames
  have hextra : Members.Sorted (unconsumed c.consumedKeys raw) := hraw.filter _
  have hlookup := Descriptor.lookup_rawObject
    (d := .mk provenance c.name slot values nested (unconsumed c.consumedKeys raw)) hextra
    (sorted_readFields Members.sorted_nil hvalues) hslots key
  rw [hlookup, Descriptor.extra, lookup_unconsumed]
  rfl

/-- The rebuilt object has every part of the class. Fields, slots and the keys of `extra` are
apart from each other, so none of them hides another. -/
theorem writtenBack_rawObject {c : ConfigClass} (hc : c.Checked)
    (hflat : ∀ slot ∈ c.slots, slot.flattened = false) (hraw : Members.Sorted raw)
    {slot : Option String} {d : Descriptor} (h : instantiate provenance slot raw c = .ok d) :
    WrittenBack provenance c raw d.rawObject := by
  obtain ⟨hfieldNames, hslotNames, hdisjoint⟩ := List.nodup_append.mp hc.distinct
  obtain ⟨values, nested, hvalues, hnested, rfl⟩ :=
    (instantiate_eq_ok_iff provenance slot raw c d).mp h
  have hconsumed := ConfigClass.mem_consumedKeys_of_unflattened hflat
  have hlookup := lookup_rawObject_of_reads hslotNames hraw hvalues hnested slot
  have hnoSlot : ∀ key, key ∉ c.slots.map (·.name) →
      (Descriptor.rawSlots nested).lookup key = none := fun key hkey =>
    Members.lookup_eq_none_of_not_mem fun hmem =>
      hkey ((keys_rawSlots_sublist hnested).subset hmem)
  have hnoField : ∀ key, key ∉ c.fields.map (·.name) → values.lookup key = none := fun key hkey =>
    lookup_of_readFields_of_ne
      (fun spec hspec heq => hkey (List.mem_map.mpr ⟨spec, hspec, heq⟩)) hvalues
  refine ⟨?_, ?_, ?_⟩
  · intro spec hspec value? hread
    have hname : spec.name ∈ c.fields.map (·.name) := List.mem_map_of_mem hspec
    have hnot : spec.name ∉ c.slots.map (·.name) := fun hmem => hdisjoint _ hname _ hmem rfl
    have hvalue : values.lookup spec.name = value? := by
      rw [lookup_of_readFields hfieldNames hvalues hspec hread, List.lookup_nil, Option.or_none]
    rw [hlookup, hnoSlot _ hnot, hvalue,
      if_pos ((hconsumed _).mpr (List.mem_append_left _ hname)), Option.none_or, Option.or_none]
  · intro s hs d? hread
    have hname : s.name ∈ c.slots.map (·.name) := List.mem_map_of_mem hs
    have hnot : s.name ∉ c.fields.map (·.name) := fun hmem => hdisjoint _ hmem _ hname rfl
    rw [hlookup, lookup_rawSlots hslotNames hnested hs hread, hnoField _ hnot,
      if_pos ((hconsumed _).mpr (List.mem_append_right _ hname)), Option.map_none, Option.or_none,
      Option.or_none]
  · intro key hkey
    have hnot := mt (hconsumed key).mpr hkey
    rw [List.mem_append, not_or] at hnot
    rw [hlookup, hnoSlot _ hnot.2, hnoField _ hnot.1, if_neg hkey, Option.map_none,
      Option.none_or, Option.none_or]

/-- What is left over of the rebuilt object is what was left over before. -/
theorem unconsumed_of_written {consumed : List String} (hraw : Members.Sorted raw)
    (hraw' : Members.Sorted raw')
    (h : ∀ key, key ∉ consumed → raw'.lookup key = raw.lookup key) :
    unconsumed consumed raw' = unconsumed consumed raw := by
  refine Members.Sorted.ext (hraw'.filter _) (hraw.filter _) fun key => ?_
  rw [lookup_unconsumed, lookup_unconsumed]
  split
  · rfl
  · next hkey => exact h key hkey

/-! ## Main theorem -/

/-- **A descriptor is read again from the object it stands for**: a class that passes its check
and has no flattened slots reads the rebuilt object into the very descriptor that it was rebuilt
from. The object and the defaults are values of JSON (`Json.Proper`); a float that is not finite
would be written as null. -/
theorem instantiate_rawObject {c : ConfigClass} (hc : c.checkWellFormed = .ok ())
    (hplain : c.Unflattened) (hdefaults : c.ProperDefaults) {provenance : Provenance}
    {slot : Option String} {raw : Json.Object} (hraw : (Json.object raw).Proper) {d : Descriptor}
    (h : instantiate provenance slot raw c = .ok d) :
    instantiate provenance slot d.rawObject c = .ok d := by
  induction c using ConfigClass.slotInduction generalizing slot raw d with
  | node c ih =>
      obtain ⟨hflat, hplainBelow⟩ := hplain
      obtain ⟨hdefault, hdefaultsBelow⟩ := hdefaults
      have hchecked := (ConfigClass.checkWellFormed_eq_ok_iff c).mp hc
      have hwritten := writtenBack_rawObject hchecked hflat hraw.sorted h
      have hsorted : Members.Sorted d.rawObject := by
        rw [Descriptor.rawObject_eq]
        exact Members.sorted_ofList _
      obtain ⟨hreads, hslots⟩ := (instantiate_succeeds_iff provenance slot raw c).mp ⟨d, h⟩
      have hfields : ∀ spec ∈ c.fields, readField raw spec = readField d.rawObject spec := by
        intro spec hspec
        obtain ⟨value?, hread⟩ := hreads spec hspec
        rw [hread, readField_of_written (fun v hv => hraw.of_lookup hv.1) (hdefault spec hspec)
          hread (hwritten.fields spec hspec value? hread)]
      have hnested : ∀ s ∈ c.slots,
          readSlot provenance raw s = readSlot provenance d.rawObject s := by
        intro s hs
        obtain ⟨d?, hread⟩ := hslots s hs
        rw [hread, readSlot_of_written (hflat s hs) hread
          (fun members e hholds he => ih s hs (hchecked.children s hs) (hplainBelow s hs)
            (hdefaultsBelow s hs) (hraw.of_lookup hholds.1) he)
          (hwritten.slots s hs d? hread)]
      obtain ⟨values, nested, hvalues, hds, rfl⟩ :=
        (instantiate_eq_ok_iff provenance slot raw c d).mp h
      rw [instantiate_eq_ok_iff]
      refine ⟨values, nested, ?_, ?_, ?_⟩
      · rw [← readFields_congr [] hfields, hvalues]
      · rw [← instantiateSlots_congr hnested, hds]
      · rw [unconsumed_of_written hraw.sorted hsorted hwritten.others]

end Config

/-! ## An example -/

namespace ConfigClass

/-- A class with a model of its own under each of two keys; a checkpoint may leave out the
second. -/
def towers : ConfigClass :=
  .mk "TowersConfig" []
    [.mandatory "rope_theta" .float, (FieldSpec.optional "tied" .bool).withDefault (.bool false),
      (FieldSpec.optional "mode" .any).withDefault .null, .optional "window" .integer]
    [.subtree "vision_config" (.mk "TowersVisionConfig" [] [.mandatory "sizes" .integerList] []),
      (Slot.subtree "audio_config" (.mk "TowersAudioConfig" [] [] [])).optional]

/-- An object for the class, with an integer for a float, an explicit null, and keys of no class
at both levels. -/
def towersObject : Json.Object :=
  [("dtype", .string "f16"), ("rope_theta", .int 10000),
    ("vision_config", .object [("act", .null), ("sizes", .array [.int 14, .int 28])]),
    ("window", .null)]

theorem unflattened_towers : towers.Unflattened := by
  refine .intro (by decide) ?_
  rw [towers, slots, List.forall_mem_cons, List.forall_mem_cons]
  exact ⟨.leaf rfl (by decide), .leaf rfl (by decide), List.forall_mem_nil _⟩

theorem properDefaults_towers : towers.ProperDefaults := by
  refine .intro ?_ ?_
  · have hdefaults : ∀ spec ∈ towers.fields, ∀ v, spec.default = some v →
        v = .bool false ∨ v = .null := by decide
    intro spec hspec v hv
    obtain rfl | rfl := hdefaults spec hspec v hv
    · exact .bool false
    · exact .null
  · rw [towers, slots, List.forall_mem_cons, List.forall_mem_cons]
    refine ⟨.leaf rfl ?_, .leaf rfl (List.forall_mem_nil _), List.forall_mem_nil _⟩
    intro spec hspec v hv
    obtain rfl := List.mem_singleton.mp hspec
    contradiction

theorem proper_towersObject : (Json.object towersObject).Proper := by
  have hint : ∀ n ∈ [14, 28, 10000], (Json.int n).Proper := fun n hn =>
    .integer (by revert n; decide) (by revert n; decide)
  have hsizes : (Json.array [.int 14, .int 28]).Proper := by
    refine .array ?_
    rw [List.forall_mem_cons, List.forall_mem_cons]
    exact ⟨hint 14 (by decide), hint 28 (by decide), List.forall_mem_nil _⟩
  have hvision : (Json.object [("act", .null), ("sizes", .array [.int 14, .int 28])]).Proper := by
    refine .object (by unfold Members.Sorted; decide) ?_
    rw [List.forall_mem_cons, List.forall_mem_cons]
    exact ⟨.null, hsizes, List.forall_mem_nil _⟩
  refine .object (by unfold Members.Sorted; decide) ?_
  rw [towersObject, List.forall_mem_cons, List.forall_mem_cons, List.forall_mem_cons,
    List.forall_mem_cons]
  exact ⟨.string "f16", hint 10000 (by decide), hvision, .null, List.forall_mem_nil _⟩

end ConfigClass

namespace Config

/-- The rebuilt object has a float in place of the integer, both defaults and no null field; it is
read into the same descriptor. -/
theorem towers_read_again :
    ∃ d, instantiate ⟨"Towers", .explicitMapping⟩ none ConfigClass.towersObject .towers = .ok d ∧
      d.rawObject ≠ ConfigClass.towersObject ∧
      instantiate ⟨"Towers", .explicitMapping⟩ none d.rawObject .towers = .ok d := by
  refine ⟨_, rfl, by decide, ?_⟩
  exact instantiate_rawObject rfl ConfigClass.unflattened_towers ConfigClass.properDefaults_towers
    ConfigClass.proper_towersObject rfl

end Config

end ModelRegistry
