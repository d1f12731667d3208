import ModelRegistry.Proofs.Config.Reading

/-!
# ModelRegistry.Proofs.Config.Dependence

What the result of a reading depends on. A class looks at its consumed keys only,
and an explicit null is to it what a missing key is: two objects that agree so far
are refused with the same violation or become the same descriptor, but for the
keys that are passed on in `extra`. The class need not pass its check.
-/

namespace ModelRegistry

namespace Descriptor

mutual

/-- The descriptor with nothing in `extra`, at any level. -/
def withoutExtra : Descriptor → Descriptor
  | .mk provenance className slot fields nested _ =>
    .mk provenance className slot fields (withoutExtras nested) []

/-- A list of descriptors with nothing in `extra`. -/
def withoutExtras : List Descriptor → List Descriptor
  | [] => []
  | d :: rest => withoutExtra d :: withoutExtras rest

end

theorem withoutExtras_append (ds es : List Descriptor) :
    withoutExtras (ds ++ es) = withoutExtras ds ++ withoutExtras es := by
  induction ds with
  | nil => rfl
  | cons d rest ih => rw [List.cons_append, withoutExtras, ih, withoutExtras, List.cons_append]

theorem withoutExtras_toList (d? : Option Descriptor) :
    withoutExtras d?.toList = (d?.map withoutExtra).toList := by
  cases d? <;> rfl

end Descriptor

namespace Config

/-- What two readings come to is the same up to a function of the result exactly if both fail
alike, or both succeed and the function does not tell the results apart. -/
theorem map_eq_map_iff {ε α β : Type} {f : α → β} {x y : Except ε α} :
    x.map f = y.map f ↔
      (∃ e, x = .error e ∧ y = .error e) ∨ ∃ a b, x = .ok a ∧ y = .ok b ∧ f a = f b := by
  cases x <;> cases y <;> simp [Except.map, eq_comm]

variable {provenance : Provenance} {raw raw' : Json.Object}

/-! ## Fields -/

/-- Two objects hold the same under every key of a list, where null is the same as nothing. -/
def AgreeOn (keys : List String) (raw raw' : Json.Object) : Prop :=
  ∀ key ∈ keys, present? raw key = present? raw' key

theorem readField_congr {spec : FieldSpec} (h : present? raw spec.name = present? raw' spec.name) :
    readField raw spec = readField raw' spec := by
  rw [readField, readField, h]

/-- A list of fields is read as its fields are. -/
theorem readFields_congr {specs : List FieldSpec} (done : Members FieldValue)
    (h : ∀ spec ∈ specs, readField raw spec = readField raw' spec) :
    readFields raw done specs = readFields raw' done specs := by
  induction specs generalizing done with
  | nil => rfl
  | cons spec rest ih =>
      rw [List.forall_mem_cons] at h
      rw [readFields, readFields, h.1]
      cases readField raw' spec with
      | error v => rfl
      | ok value? =>
          cases value? with
          | none => exact ih done h.2
          | some value => exact ih _ h.2

/-! ## Slots -/

section Slots

variable {slot : Slot ConfigClass} {slots : List (Slot ConfigClass)}

theorem readSlot_of_flattened (h : slot.flattened = true) :
    readSlot provenance raw slot =
      (instantiate provenance (some slot.name) raw slot.child).map some := by
  rw [readSlot, h]
  cases instantiate provenance (some slot.name) raw slot.child <;> rfl

/-- A subtree slot is read from what stands under its name and from nothing else. -/
theorem readSlot_congr (h : slot.flattened = false)
    (hname : present? raw slot.name = present? raw' slot.name) :
    readSlot provenance raw slot = readSlot provenance raw' slot := by
  rw [readSlot, readSlot, h, subtree?, subtree?, hname]
  rfl

/-- A list of slots is read as its slots are. -/
theorem instantiateSlots_congr
    (h : ∀ slot ∈ slots, readSlot provenance raw slot = readSlot provenance raw' slot) :
    instantiateSlots provenance raw slots = instantiateSlots provenance raw' slots := by
  induction slots with
  | nil => rfl
  | cons slot rest ih =>
      rw [List.forall_mem_cons] at h
      rw [instantiateSlots_cons, instantiateSlots_cons, h.1, ih h.2]

theorem withoutExtra_readSlot
    (hflat : slot.flattened = true →
      (instantiate provenance (some slot.name) raw slot.child).map Descriptor.withoutExtra =
        (instantiate provenance (some slot.name) raw' slot.child).map Descriptor.withoutExtra)
    (hname : slot.flattened = false → present? raw slot.name = present? raw' slot.name) :
    (readSlot provenance raw slot).map (Option.map Descriptor.withoutExtra) =
      (readSlot provenance raw' slot).map (Option.map Descriptor.withoutExtra) := by
  cases h : slot.flattened with
  | false => rw [readSlot_congr h (hname h)]
  | true =>
      rw [readSlot_of_flattened h, readSlot_of_flattened h, map_eq_map_iff]
      obtain ⟨v, hraw, hraw'⟩ | ⟨d, d', hraw, hraw', hsame⟩ := map_eq_map_iff.mp (hflat h)
      · exact .inl ⟨v, by rw [hraw]; rfl, by rw [hraw']; rfl⟩
      · exact .inr ⟨some d, some d', by rw [hraw]; rfl, by rw [hraw']; rfl, congrArg some hsame⟩

theorem withoutExtras_instantiateSlots
    (h : ∀ slot ∈ slots, (readSlot provenance raw slot).map (Option.map Descriptor.withoutExtra) =
      (readSlot provenance raw' slot).map (Option.map Descriptor.withoutExtra)) :
    (instantiateSlots provenance raw slots).map Descriptor.withoutExtras =
      (instantiateSlots provenance raw' slots).map Descriptor.withoutExtras := by
  induction slots with
  | nil => rfl
  | cons slot rest ih =>
      rw [List.forall_mem_cons] at h
      rw [instantiateSlots_cons, instantiateSlots_cons]
      obtain ⟨v, hraw, hraw'⟩ | ⟨d?, e?, hraw, hraw', hsame⟩ := map_eq_map_iff.mp h.1
      · rw [hraw, hraw']
      · rw [hraw, hraw']
        obtain ⟨v, hds, hes⟩ | ⟨ds, es, hds, hes, hrest⟩ := map_eq_map_iff.mp (ih h.2)
        · rw [hds, hes]
        · rw [hds, hes]
          simp only [Except.map, Descriptor.withoutExtras_append, Descriptor.withoutExtras_toList,
            hsame, hrest]

end Slots

/-! ## Classes -/

theorem withoutExtra_instantiate (c : ConfigClass) (slot : Option String)
    (h : AgreeOn c.consumedKeys raw raw') :
    (instantiate provenance slot raw c).map Descriptor.withoutExtra =
      (instantiate provenance slot raw' c).map Descriptor.withoutExtra := by
  induction c using ConfigClass.slotInduction generalizing slot with
  | node c ih =>
      have hread : ∀ key, c.Reads key → present? raw key = present? raw' key := fun key hkey =>
        h key ((ConfigClass.mem_consumedKeys c key).mpr hkey)
      have hfields : readFields raw [] c.fields = readFields raw' [] c.fields :=
        readFields_congr [] fun spec hspec => readField_congr (hread _ (.field hspec))
      have hslots : (instantiateSlots provenance raw c.slots).map Descriptor.withoutExtras =
          (instantiateSlots provenance raw' c.slots).map Descriptor.withoutExtras :=
        withoutExtras_instantiateSlots fun s hs =>
          withoutExtra_readSlot
            (fun hflat => ih s hs (some s.name) fun key hkey =>
              hread key (.flattened hs hflat ((ConfigClass.mem_consumedKeys _ _).mp hkey)))
            (fun hflat => hread _ (.subtree hs hflat))
      obtain ⟨name, modelTypes, fields, slots⟩ := c
      rw [ConfigClass.fields] at hfields
      rw [ConfigClass.slots] at hslots
      rw [instantiate, instantiate, hfields]
      cases readFields raw' [] fields with
      | error v => rfl
      | ok values =>
          obtain ⟨v, hds, hes⟩ | ⟨ds, es, hds, hes, hsame⟩ := map_eq_map_iff.mp hslots
          · rw [hds, hes]
          · rw [hds, hes]
            simp only [Except.map, Descriptor.withoutExtra, hsame]

/-! ## Main theorem -/

/-- **Only the consumed keys count**: two objects that hold the same under the keys that a class
consumes, where null is the same as nothing, are refused with the same violation, or are read
into descriptors that are the same at every level but for `extra`. -/
theorem consumed_keys_decide (provenance : Provenance) (slot : Option String) (c : ConfigClass)
    {raw raw' : Json.Object} (h : AgreeOn c.consumedKeys raw raw') :
    (∃ v, instantiate provenance slot raw c = .error v ∧
      instantiate provenance slot raw' c = .error v) ∨
    ∃ d d', instantiate provenance slot raw c = .ok d ∧
      instantiate provenance slot raw' c = .ok d' ∧ d.withoutExtra = d'.withoutExtra :=
  map_eq_map_iff.mp (withoutExtra_instantiate c slot h)

/-- An object in which no class reads `dtype`, with another one in its place and an explicit null
for the field that has a default. -/
theorem split_ignores_unread_keys :
    let raw := ConfigClass.splitObject (.int 27)
    let raw' : Json.Object := [("quantized", .bool true), ("rope_theta", .int 10000),
      ("tied", .null), ("vision_config", .object [("depth", .int 27)]), ("vocab_size", .int 7)]
    AgreeOn ConfigClass.split.consumedKeys raw raw' ∧
      ∃ d d', instantiate ⟨"Split", .explicitMapping⟩ none raw .split = .ok d ∧
        instantiate ⟨"Split", .explicitMapping⟩ none raw' .split = .ok d' ∧
        d.withoutExtra = d'.withoutExtra ∧ d.extra ≠ d'.extra := by
  intro raw raw'
  have hagree : AgreeOn ConfigClass.split.consumedKeys raw raw' := by
    unfold AgreeOn
    decide
  refine ⟨hagree, ?_⟩
  obtain ⟨v, hv, -⟩ | ⟨d, d', hd, hd', hsame⟩ :=
    consumed_keys_decide ⟨"Split", .explicitMapping⟩ none .split hagree
  · cases hv
  · refine ⟨d, d', hd, hd', hsame, ?_⟩
    cases hd
    cases hd'
    decide

end Config

end ModelRegistry
