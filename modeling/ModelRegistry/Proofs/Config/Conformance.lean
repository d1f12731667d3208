import ModelRegistry.Proofs.Config.Reading
import ModelRegistry.Proofs.Json.Members

/-!
# ModelRegistry.Proofs.Config.Conformance

What a resolved configuration holds. `Conforms c raw d` relates a descriptor to
the class and the raw object that it came from, level by level: its fields are
the declared ones, its nested descriptors conform to the child classes in the
order of the slots, and its `extra` is what no part of the class reads.

The keys left out of `extra` come from `consumedKeys`, a recursion of its own
beside that of `instantiate`; the relation speaks of the keys that the class
`Reads`, so that the theorem ties the two recursions together.
-/

namespace ModelRegistry

namespace Config

/-! ## Conformance -/

mutual

/-- The descriptor is what the class makes of the object. -/
inductive Conforms : ConfigClass → Json.Object → Descriptor → Prop where
  | intro {c : ConfigClass} {raw : Json.Object} {d : Descriptor}
      (className : d.className = c.name)
      (keys : ∀ name, name ∈ Members.keys d.fields ↔ ∃ spec ∈ c.fields,
        spec.name = name ∧ ((∃ v, Holds raw name v) ∨ spec.default.isSome))
      (values : ∀ spec ∈ c.fields, ∀ v, Sourced raw spec v →
        d.get? spec.name = FieldValue.ofJson? spec.type v)
      (required : ∀ spec ∈ c.fields, spec.required = true → (d.get? spec.name).isSome)
      (nested : SlotsConform raw c.slots d.nested)
      (extra : ∀ key v, d.extra.lookup key = some v ↔ raw.lookup key = some v ∧ ¬ c.Reads key) :
      Conforms c raw d

/-- The descriptors are what a list of slots makes of the parent's object: one for each
flattened slot and for each subtree slot that holds an object, in the order of the slots. -/
inductive SlotsConform : Json.Object → List (Slot ConfigClass) → List Descriptor → Prop where
  | nil {raw : Json.Object} : SlotsConform raw [] []
  | flattened {raw : Json.Object} {slot : Slot ConfigClass} {rest : List (Slot ConfigClass)}
      {d : Descriptor} {ds : List Descriptor} :
      slot.flattened = true → d.slot = some slot.name → Conforms slot.child raw d →
      SlotsConform raw rest ds → SlotsConform raw (slot :: rest) (d :: ds)
  | subtree {raw members : Json.Object} {slot : Slot ConfigClass}
      {rest : List (Slot ConfigClass)} {d : Descriptor} {ds : List Descriptor} :
      slot.flattened = false → Holds raw slot.name (.object members) → d.slot = some slot.name →
      Conforms slot.child members d → SlotsConform raw rest ds →
      SlotsConform raw (slot :: rest) (d :: ds)
  | empty {raw : Json.Object} {slot : Slot ConfigClass} {rest : List (Slot ConfigClass)}
      {ds : List Descriptor} :
      slot.flattened = false → (∀ members, raw.lookup slot.name ≠ some (.object members)) →
      SlotsConform raw rest ds → SlotsConform raw (slot :: rest) ds

end

/-! ## Fields -/

theorem exists_sourced_iff (raw : Json.Object) (spec : FieldSpec) :
    (∃ v, Sourced raw spec v) ↔ (∃ v, Holds raw spec.name v) ∨ spec.default.isSome := by
  constructor
  · intro hsourced
    obtain ⟨v, h | ⟨-, h⟩⟩ := hsourced
    · exact .inl ⟨v, h⟩
    · exact .inr (by simp [h])
  · intro hsource
    obtain ⟨v, h⟩ | h := hsource
    · exact ⟨v, .held h⟩
    · by_cases hholds : ∃ v, Holds raw spec.name v
      · obtain ⟨v, hv⟩ := hholds
        exact ⟨v, .held hv⟩
      · obtain ⟨v, hv⟩ := Option.isSome_iff_exists.mp h
        exact ⟨v, .default (not_exists.mp hholds) hv⟩

theorem Sourced.unique {raw : Json.Object} {spec : FieldSpec} {v w : Json}
    (hv : Sourced raw spec v) (hw : Sourced raw spec w) : v = w := by
  cases hv with
  | held hv =>
      cases hw with
      | held hw => exact hv.unique hw
      | default h => exact (h v hv).elim
  | default h hv =>
      cases hw with
      | held hw => exact (h w hw).elim
      | default _ hw => exact Option.some.inj (hv.symm.trans hw)

/-- What is read for a field is its source at the type of the field. -/
theorem ofJson?_of_readField {raw : Json.Object} {spec : FieldSpec}
    {value? : Option FieldValue} (h : readField raw spec = .ok value?) {v : Json}
    (hv : Sourced raw spec v) : value?.isSome ∧ FieldValue.ofJson? spec.type v = value? := by
  have hread := fieldReading raw spec
  rw [h] at hread
  cases hread with
  | value hsource htype => exact ⟨rfl, hv.unique hsource ▸ htype⟩
  | absent hnone => exact (hnone v hv).elim

theorem eq_none_of_readField {raw : Json.Object} {spec : FieldSpec}
    {value? : Option FieldValue} (h : readField raw spec = .ok value?)
    (hnone : ∀ v, ¬ Sourced raw spec v) : value? = none ∧ spec.required = false := by
  have hread := fieldReading raw spec
  rw [h] at hread
  cases hread with
  | value hsource => exact (hnone _ hsource).elim
  | absent _ hrequired => exact ⟨rfl, hrequired⟩

/-- The names under which fields were read are those of the fields that have a source. -/
theorem isSome_lookup_of_readFields {raw : Json.Object} {values : Members FieldValue}
    {specs : List FieldSpec} (hnames : (specs.map (·.name)).Nodup)
    (h : readFields raw [] specs = .ok values) (name : String) :
    (values.lookup name).isSome ↔ ∃ spec ∈ specs, spec.name = name ∧ ∃ v, Sourced raw spec v := by
  have hread := (readFields_eq_ok_iff raw [] specs).mp ⟨values, h⟩
  constructor
  · intro hsome
    by_cases hdeclared : ∃ spec ∈ specs, spec.name = name
    · obtain ⟨spec, hspec, rfl⟩ := hdeclared
      refine ⟨spec, hspec, rfl, ?_⟩
      obtain ⟨value?, hvalue⟩ := hread spec hspec
      rw [lookup_of_readFields hnames h hspec hvalue, List.lookup_nil, Option.or_none] at hsome
      by_cases hsource : ∃ v, Sourced raw spec v
      · exact hsource
      · rw [(eq_none_of_readField hvalue (not_exists.mp hsource)).1] at hsome
        contradiction
    · have hne : ∀ spec ∈ specs, spec.name ≠ name := fun spec hspec heq =>
        hdeclared ⟨spec, hspec, heq⟩
      rw [lookup_of_readFields_of_ne hne h] at hsome
      contradiction
  · intro hkey
    obtain ⟨spec, hspec, rfl, v, hv⟩ := hkey
    obtain ⟨value?, hvalue⟩ := hread spec hspec
    rw [lookup_of_readFields hnames h hspec hvalue, List.lookup_nil, Option.or_none]
    exact (ofJson?_of_readField hvalue hv).1

/-! ## Keys -/

theorem lookup_unconsumed (consumed : List String) (raw : Json.Object) (key : String) :
    (unconsumed consumed raw).lookup key = if key ∈ consumed then none else raw.lookup key := by
  rw [unconsumed, Members.lookup_filter fun name => !consumed.contains name]
  by_cases hkey : key ∈ consumed <;> simp [hkey]

/-! ## Slots -/

theorem slot_of_instantiate {provenance : Provenance} {slot : Option String}
    {raw : Json.Object} {c : ConfigClass} {d : Descriptor}
    (h : instantiate provenance slot raw c = .ok d) : d.slot = slot := by
  obtain ⟨values, nested, -, -, rfl⟩ := (instantiate_eq_ok_iff provenance slot raw c d).mp h
  rfl

theorem slotsConform_of_instantiateSlots {provenance : Provenance} {raw : Json.Object}
    {slots : List (Slot ConfigClass)} {nested : List Descriptor}
    (hchild : ∀ slot ∈ slots, ∀ object d,
      instantiate provenance (some slot.name) object slot.child = .ok d →
        Conforms slot.child object d)
    (h : instantiateSlots provenance raw slots = .ok nested) : SlotsConform raw slots nested := by
  induction slots generalizing nested with
  | nil =>
      obtain rfl : [] = nested := by simpa [instantiateSlots] using h
      exact .nil
  | cons slot rest ih =>
      rw [List.forall_mem_cons] at hchild
      obtain ⟨d?, ds, hslot, hrest, rfl⟩ :=
        (instantiateSlots_cons_eq_ok_iff provenance raw slot rest nested).mp h
      have hds := ih hchild.2 hrest
      have hread := slotReading provenance raw slot
      rw [hslot] at hread
      cases hread with
      | flattened hflat hd =>
          exact .flattened hflat (slot_of_instantiate hd) (hchild.1 raw _ hd) hds
      | subtree hflat hholds hd =>
          exact .subtree hflat hholds (slot_of_instantiate hd) (hchild.1 _ _ hd) hds
      | empty hflat hnone =>
          exact .empty hflat (fun members hlookup => hnone _ ⟨hlookup, by simp⟩) hds

/-! ## The walk -/

theorem mem_walkAll (ds : List Descriptor) (e : Descriptor) :
    e ∈ Descriptor.walkAll ds ↔ ∃ d ∈ ds, e ∈ d.walk := by
  induction ds with
  | nil => simp [Descriptor.walkAll]
  | cons d rest ih => simp [Descriptor.walkAll, ih]

/-- Every nested descriptor was read from an object against the class of a slot. -/
theorem exists_slot_of_mem {provenance : Provenance} {raw : Json.Object}
    {slots : List (Slot ConfigClass)} {nested : List Descriptor}
    (h : instantiateSlots provenance raw slots = .ok nested) {d : Descriptor} (hd : d ∈ nested) :
    ∃ slot ∈ slots, ∃ object,
      instantiate provenance (some slot.name) object slot.child = .ok d := by
  induction slots generalizing nested with
  | nil =>
      obtain rfl : [] = nested := by simpa [instantiateSlots] using h
      contradiction
  | cons slot rest ih =>
      obtain ⟨d?, ds, hslot, hrest, rfl⟩ :=
        (instantiateSlots_cons_eq_ok_iff provenance raw slot rest nested).mp h
      rcases List.mem_append.mp hd with hmem | hmem
      · have hread := slotReading provenance raw slot
        rw [hslot] at hread
        cases hread with
        | flattened _ h' =>
            obtain rfl : d = _ := by simpa using hmem
            exact ⟨slot, List.mem_cons_self, raw, h'⟩
        | subtree _ _ h' =>
            obtain rfl : d = _ := by simpa using hmem
            exact ⟨slot, List.mem_cons_self, _, h'⟩
        | empty => simp at hmem
      · obtain ⟨s, hs, object, h'⟩ := ih hrest hmem
        exact ⟨s, List.mem_cons_of_mem slot hs, object, h'⟩

theorem provenance_of_mem_walk {c : ConfigClass} {provenance : Provenance} {slot : Option String}
    {raw : Json.Object} {d : Descriptor} (h : instantiate provenance slot raw c = .ok d) :
    ∀ e ∈ d.walk, e.provenance = provenance := by
  induction c using ConfigClass.slotInduction generalizing slot raw d with
  | node c ih =>
      obtain ⟨values, nested, -, hnested, rfl⟩ :=
        (instantiate_eq_ok_iff provenance slot raw c d).mp h
      intro e he
      rw [Descriptor.walk, List.mem_cons, mem_walkAll] at he
      rcases he with rfl | ⟨child, hchild, he⟩
      · rfl
      · obtain ⟨s, hs, object, h'⟩ := exists_slot_of_mem hnested hchild
        exact ih s hs h' e he

/-! ## Main theorem -/

theorem conforms_of_instantiate {c : ConfigClass} (hc : c.checkWellFormed = .ok ())
    {provenance : Provenance} {slot : Option String} {raw : Json.Object} {d : Descriptor}
    (h : instantiate provenance slot raw c = .ok d) : Conforms c raw d := by
  induction c using ConfigClass.slotInduction generalizing slot raw d with
  | node c ih =>
      have hchecked := (ConfigClass.checkWellFormed_eq_ok_iff c).mp hc
      have hnames := (List.nodup_append.mp hchecked.distinct).1
      obtain ⟨values, nested, hvalues, hnested, rfl⟩ :=
        (instantiate_eq_ok_iff provenance slot raw c d).mp h
      have hread := (readFields_eq_ok_iff raw [] c.fields).mp ⟨values, hvalues⟩
      have hlookup : ∀ spec ∈ c.fields, ∀ v, Sourced raw spec v →
          (values.lookup spec.name).isSome ∧
            values.lookup spec.name = FieldValue.ofJson? spec.type v := by
        intro spec hspec v hv
        obtain ⟨value?, hvalue⟩ := hread spec hspec
        obtain ⟨hsome, htype⟩ := ofJson?_of_readField hvalue hv
        rw [lookup_of_readFields hnames hvalues hspec hvalue, List.lookup_nil, Option.or_none]
        exact ⟨hsome, htype.symm⟩
      refine .intro rfl ?_ (fun spec hspec v hv => (hlookup spec hspec v hv).2) ?_ ?_ ?_
      · intro name
        rw [Descriptor.fields, Members.mem_keys_iff, isSome_lookup_of_readFields hnames hvalues]
        constructor
        · intro hkey
          obtain ⟨spec, hspec, rfl, hsource⟩ := hkey
          exact ⟨spec, hspec, rfl, (exists_sourced_iff raw spec).mp hsource⟩
        · intro hkey
          obtain ⟨spec, hspec, rfl, hsource⟩ := hkey
          exact ⟨spec, hspec, rfl, (exists_sourced_iff raw spec).mpr hsource⟩
      · intro spec hspec hrequired
        obtain ⟨value?, hvalue⟩ := hread spec hspec
        by_cases hsource : ∃ v, Sourced raw spec v
        · obtain ⟨v, hv⟩ := hsource
          exact (hlookup spec hspec v hv).1
        · have hoptional := (eq_none_of_readField hvalue (not_exists.mp hsource)).2
          simp [hoptional] at hrequired
      · exact slotsConform_of_instantiateSlots
          (fun s hs object e he => ih s hs (hchecked.children s hs) he) hnested
      · intro key v
        rw [← ConfigClass.mem_consumedKeys, Descriptor.extra, lookup_unconsumed]
        by_cases hkey : key ∈ c.consumedKeys <;> simp [hkey]

/-- **Conformance without loss**: a resolved configuration conforms to its class at every level,
so that each key of the object is either read by the class or kept in `extra`; and all of its
descriptors carry the architecture and strategy for which it was resolved. -/
theorem resolved_conforms_to_class {c : ConfigClass} (hc : c.checkWellFormed = .ok ())
    {provenance : Provenance} {slot : Option String} {raw : Json.Object} {d : Descriptor}
    (h : instantiate provenance slot raw c = .ok d) :
    Conforms c raw d ∧ d.slot = slot ∧
      ∀ e ∈ d.walk, e.architecture = provenance.architecture ∧
        e.provenance.strategy = provenance.strategy := by
  refine ⟨conforms_of_instantiate hc h, slot_of_instantiate h, ?_⟩
  intro e he
  have hprovenance := provenance_of_mem_walk h e he
  exact ⟨congrArg Provenance.architecture hprovenance,
    congrArg Provenance.strategy hprovenance⟩

/-- A flat checkpoint is resolved; what no class reads is left in `extra`, and the vision model
that a flattened child reads is not. -/
theorem split_conforms :
    ConfigClass.split.checkWellFormed = .ok () ∧
      ∃ d, instantiate ⟨"Split", .explicitMapping⟩ none (ConfigClass.splitObject (.int 27)) .split =
          .ok d ∧
        d.extra = [("dtype", .string "f16")] ∧
        Conforms .split (ConfigClass.splitObject (.int 27)) d :=
  ⟨rfl, _, rfl, rfl, (resolved_conforms_to_class rfl rfl).1⟩

end Config

end ModelRegistry
