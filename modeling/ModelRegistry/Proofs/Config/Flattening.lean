import ModelRegistry.Proofs.Config.Dependence
import ModelRegistry.Proofs.Json.Members

/-!
# ModelRegistry.Proofs.Config.Flattening

Flattened slots against subtree slots. A checkpoint may keep the keys of a nested
configuration next to its own, for a class with a flattened slot, or in an object
of their own, for a class with a subtree slot. `moveUnder` makes the second form of
the first.

If no other part of the class reads the keys that are moved, both forms are read
alike: the other parts see no difference, because they depend on the keys that they
consume and on no others (`withoutExtra_instantiate`), and neither does the child,
which finds all keys that it consumes in its object. Only the path of a violation
tells where the child was read from.
-/

namespace ModelRegistry

namespace ConfigClass

/-- A class with one more slot consumes what that slot looks at, besides what it consumed. -/
theorem mem_consumedKeys_with_slot {name : String} {modelTypes : List String}
    {fields : List FieldSpec} {before after : List (Slot ConfigClass)} {slot : Slot ConfigClass}
    {key : String} :
    key ∈ (mk name modelTypes fields (before ++ slot :: after)).consumedKeys ↔
      key ∈ (mk name modelTypes fields (before ++ after)).consumedKeys ∨
        (slot.flattened = true ∧ key ∈ slot.child.consumedKeys) ∨
          (slot.flattened = false ∧ key = slot.name) := by
  rw [consumedKeys, consumedKeys, List.mem_append, List.mem_append, mem_slotKeys, mem_slotKeys]
  simp only [List.mem_append, List.mem_cons]
  grind

end ConfigClass

namespace Config

variable {provenance : Provenance} {raw raw' : Json.Object}

/-! ## Moving keys -/

/-- The object with its members under these keys moved into an object under another key. -/
def moveUnder (slot : String) (keys : List String) (raw : Json.Object) : Json.Object :=
  Members.insert slot (.object (raw.filter fun member => keys.contains member.1))
    (unconsumed keys raw)

theorem present?_moveUnder_of_ne {slot key : String} {keys : List String} (hslot : key ≠ slot)
    (hkeys : key ∉ keys) : present? (moveUnder slot keys raw) key = present? raw key := by
  rw [present?, present?, moveUnder, Members.lookup_insert, if_neg hslot, unconsumed,
    Members.lookup_filter fun name => !keys.contains name]
  simp [hkeys]

theorem present?_moveUnder_slot {slot : String} {keys : List String} :
    present? (moveUnder slot keys raw) slot =
      some (.object (raw.filter fun member => keys.contains member.1)) := by
  rw [present?, moveUnder, Members.lookup_insert, if_pos rfl]
  rfl

/-- The object that the keys are moved into holds them as the first object did. -/
theorem agreeOn_moved (keys : List String) :
    AgreeOn keys raw (raw.filter fun member => keys.contains member.1) := by
  intro key hkey
  rw [present?, present?, Members.lookup_filter fun name => keys.contains name]
  simp [hkey]

/-! ## Slots -/

/-- A slot of a class is read alike from objects that agree on what the class consumes. -/
theorem withoutExtra_readSlot_of_agreeOn {c : ConfigClass} {slot : Slot ConfigClass}
    (hslot : slot ∈ c.slots) (h : AgreeOn c.consumedKeys raw raw') :
    (readSlot provenance raw slot).map (Option.map Descriptor.withoutExtra) =
      (readSlot provenance raw' slot).map (Option.map Descriptor.withoutExtra) := by
  have hread : ∀ key, c.Reads key → present? raw key = present? raw' key := fun key hkey =>
    h key ((ConfigClass.mem_consumedKeys c key).mpr hkey)
  refine withoutExtra_readSlot (fun hflat => ?_) fun hflat => hread _ (.subtree hslot hflat)
  refine withoutExtra_instantiate slot.child (some slot.name) fun key hkey => ?_
  exact hread key (.flattened hslot hflat ((ConfigClass.mem_consumedKeys _ _).mp hkey))

/-- A subtree slot is read from the object that was moved there. -/
theorem readSlot_moveUnder (name : String) (child : ConfigClass) (keys : List String) :
    readSlot provenance (moveUnder name keys raw) (.subtree name child) =
      match instantiate provenance (some name)
        (raw.filter fun member => keys.contains member.1) child with
      | .ok d => .ok (some d)
      | .error v => .error (v.inSlot name) := by
  rw [readSlot, Slot.subtree, subtree?, present?_moveUnder_slot]
  rfl

theorem instantiateSlots_append (before after : List (Slot ConfigClass)) :
    instantiateSlots provenance raw (before ++ after) =
      match instantiateSlots provenance raw before with
      | .error v => .error v
      | .ok ds =>
        match instantiateSlots provenance raw after with
        | .error v => .error v
        | .ok es => .ok (ds ++ es) := by
  induction before with
  | nil =>
      rw [List.nil_append, instantiateSlots]
      cases instantiateSlots provenance raw after <;> rfl
  | cons slot rest ih =>
      rw [List.cons_append, instantiateSlots_cons, instantiateSlots_cons, ih]
      cases readSlot provenance raw slot with
      | error v => rfl
      | ok d? =>
          cases instantiateSlots provenance raw rest with
          | error v => rfl
          | ok ds =>
              cases instantiateSlots provenance raw after with
              | error v => rfl
              | ok es => simp only [List.append_assoc]

/-! ## Main theorem -/

/-- A class with these fields and slots meets the violation inside a flattened slot: the fields
and the slots before it are read, and its child reports the violation. -/
structure FailsInside (provenance : Provenance) (raw : Json.Object) (fields : List FieldSpec)
    (before : List (Slot ConfigClass)) (slot : Slot ConfigClass) (v : Violation) : Prop where
  fields : ∃ values, readFields raw [] fields = .ok values
  earlier : ∃ ds, instantiateSlots provenance raw before = .ok ds
  child : instantiate provenance (some slot.name) raw slot.child = .error v

theorem path_inSlot (slot : String) (v : Violation) :
    (v.inSlot slot).path = slot ++ "." ++ v.path := by
  obtain ⟨slots, name, kind⟩ := v
  cases slots with
  | nil => exact String.intercalate_cons_cons
  | cons first rest => exact String.intercalate_cons_cons

section

variable {name : String} {modelTypes : List String} {fields : List FieldSpec}
  {before after : List (Slot ConfigClass)} {slot : Slot ConfigClass}

/-- A class is read up to a slot, in the slot, and from there on. -/
theorem instantiate_with_slot (within : Option String) :
    instantiate provenance within raw (.mk name modelTypes fields (before ++ slot :: after)) =
      match readFields raw [] fields with
      | .error v => .error v
      | .ok values =>
        match instantiateSlots provenance raw before with
        | .error v => .error v
        | .ok ds =>
          match readSlot provenance raw slot with
          | .error v => .error v
          | .ok d? =>
            match instantiateSlots provenance raw after with
            | .error v => .error v
            | .ok es => .ok (.mk provenance name within values (ds ++ (d?.toList ++ es))
                (unconsumed (ConfigClass.mk name modelTypes fields
                  (before ++ slot :: after)).consumedKeys raw)) := by
  rw [instantiate, instantiateSlots_append, instantiateSlots_cons]
  cases readFields raw [] fields with
  | error v => rfl
  | ok values =>
      cases instantiateSlots provenance raw before with
      | error v => rfl
      | ok ds =>
          cases readSlot provenance raw slot with
          | error v => rfl
          | ok d? => cases instantiateSlots provenance raw after <;> rfl

/-- What is passed on at the top is the same in both forms. -/
theorem unconsumed_moveUnder (hflat : slot.flattened = true) (hraw : raw.lookup slot.name = none) :
    unconsumed
        (ConfigClass.mk name modelTypes fields
          (before ++ .subtree slot.name slot.child :: after)).consumedKeys
        (moveUnder slot.name slot.child.consumedKeys raw) =
      unconsumed (ConfigClass.mk name modelTypes fields (before ++ slot :: after)).consumedKeys
        raw := by
  let nested : ConfigClass :=
    .mk name modelTypes fields (before ++ .subtree slot.name slot.child :: after)
  have hmem : slot.name ∈ nested.consumedKeys :=
    ConfigClass.mem_consumedKeys_with_slot.mpr (.inr (.inr ⟨rfl, rfl⟩))
  have hname : (!nested.consumedKeys.contains slot.name) = false := by simpa using hmem
  rw [unconsumed, moveUnder,
    Members.filter_insert (fun key => !nested.consumedKeys.contains key) hname,
    unconsumed, unconsumed, List.filter_filter]
  refine List.filter_congr fun member hmember => ?_
  have hne : member.1 ≠ slot.name := by
    rintro heq
    simpa [heq] using List.lookup_eq_none_iff.mp hraw member hmember
  rw [Bool.eq_iff_iff]
  simp [nested, ConfigClass.mem_consumedKeys_with_slot, Slot.subtree, hflat, hne]

/-- The other parts of the class see no difference after the move. -/
theorem agreeOn_moveUnder
    (hslot : slot.name ∉
      (ConfigClass.mk name modelTypes fields (before ++ slot :: after)).consumedKeys)
    (hdisjoint : ∀ key ∈ slot.child.consumedKeys,
      key ∉ (ConfigClass.mk name modelTypes fields (before ++ after)).consumedKeys) :
    AgreeOn (ConfigClass.mk name modelTypes fields (before ++ after)).consumedKeys raw
      (moveUnder slot.name slot.child.consumedKeys raw) := by
  intro key hkey
  refine (present?_moveUnder_of_ne ?_ fun hchild => hdisjoint key hchild hkey).symm
  rintro rfl
  exact hslot (ConfigClass.mem_consumedKeys_with_slot.mpr (.inl hkey))

/-- **Flat and nested checkpoints are read alike**: let a class have a flattened slot whose child
consumes nothing that another part of the class consumes, and let neither the class nor an object
know the name of the slot. Then the object is read as it is read with the keys of the child moved
under the slot and the slot turned into a subtree slot. The descriptors are the same at every level
but for the `extra` of those that are nested; the violations are the same, but that one inside the
child has the slot in front of its path. -/
theorem flat_and_nested_read_alike (provenance : Provenance) (within : Option String)
    (hflat : slot.flattened = true) (hraw : raw.lookup slot.name = none)
    (hslot : slot.name ∉
      (ConfigClass.mk name modelTypes fields (before ++ slot :: after)).consumedKeys)
    (hdisjoint : ∀ key ∈ slot.child.consumedKeys,
      key ∉ (ConfigClass.mk name modelTypes fields (before ++ after)).consumedKeys) :
    let flat : ConfigClass := .mk name modelTypes fields (before ++ slot :: after)
    let nested : ConfigClass :=
      .mk name modelTypes fields (before ++ .subtree slot.name slot.child :: after)
    let moved := moveUnder slot.name slot.child.consumedKeys raw
    (∃ d d', instantiate provenance within raw flat = .ok d ∧
      instantiate provenance within moved nested = .ok d' ∧
      d.withoutExtra = d'.withoutExtra ∧ d.extra = d'.extra) ∨
    ∃ v, instantiate provenance within raw flat = .error v ∧
      ((FailsInside provenance raw fields before slot v ∧
        instantiate provenance within moved nested = .error (v.inSlot slot.name) ∧
        (v.inSlot slot.name).path = slot.name ++ "." ++ v.path) ∨
      (¬ FailsInside provenance raw fields before slot v ∧
        instantiate provenance within moved nested = .error v)) := by
  intro flat nested moved
  have hagree : AgreeOn (ConfigClass.mk name modelTypes fields (before ++ after)).consumedKeys
      raw moved := agreeOn_moveUnder hslot hdisjoint
  have hfields : readFields moved [] fields = readFields raw [] fields :=
    readFields_congr [] fun spec hspec => readField_congr <| (hagree _ <|
      (ConfigClass.mem_consumedKeys _ _).mpr (.field hspec)).symm
  have hslots : ∀ slots : List (Slot ConfigClass), (∀ s ∈ slots, s ∈ before ++ after) →
      (instantiateSlots provenance raw slots).map Descriptor.withoutExtras =
        (instantiateSlots provenance moved slots).map Descriptor.withoutExtras :=
    fun slots hsub => withoutExtras_instantiateSlots fun s hs =>
      withoutExtra_readSlot_of_agreeOn (c := .mk name modelTypes fields (before ++ after))
        (hsub s hs) hagree
  have hchild : (instantiate provenance (some slot.name) raw slot.child).map
        Descriptor.withoutExtra =
      (instantiate provenance (some slot.name)
        (raw.filter fun member => slot.child.consumedKeys.contains member.1) slot.child).map
        Descriptor.withoutExtra :=
    withoutExtra_instantiate slot.child (some slot.name) (agreeOn_moved slot.child.consumedKeys)
  simp only [flat, nested, instantiate_with_slot, hfields, moved, readSlot_of_flattened hflat,
    readSlot_moveUnder]
  -- The parts are read in turn; the first that fails decides.
  cases hvalues : readFields raw [] fields with
  | error v =>
      refine .inr ⟨v, rfl, .inr ⟨fun h => ?_, rfl⟩⟩
      obtain ⟨values, hread⟩ := h.fields
      cases hvalues.symm.trans hread
  | ok values =>
      obtain ⟨v, hbefore, hbefore'⟩ | ⟨ds, ds', hbefore, hbefore', hds⟩ :=
        map_eq_map_iff.mp (hslots before fun s hs => List.mem_append_left after hs)
      · refine .inr ⟨v, by simp only [hbefore], .inr ⟨fun h => ?_, by simp only [hbefore', moved]⟩⟩
        obtain ⟨ds, hread⟩ := h.earlier
        cases hbefore.symm.trans hread
      · obtain ⟨v, hv, hv'⟩ | ⟨d, d', hd, hd', hsame⟩ := map_eq_map_iff.mp hchild
        · refine .inr ⟨v, by simp only [hbefore, hv, Except.map], .inl ⟨?_, ?_, path_inSlot _ _⟩⟩
          · exact ⟨⟨values, hvalues⟩, ⟨ds, hbefore⟩, hv⟩
          · simp only [hbefore', hv', moved]
        · obtain ⟨v, hafter, hafter'⟩ | ⟨es, es', hes, hes', hrest⟩ :=
            map_eq_map_iff.mp (hslots after fun s hs => List.mem_append_right before hs)
          · refine .inr ⟨v, by simp only [hbefore, hd, hafter, Except.map], .inr ⟨fun h => ?_, ?_⟩⟩
            · cases hd.symm.trans h.child
            · simp only [hbefore', hd', hafter', moved]
          · refine .inl ⟨_, _, by simp only [hbefore, hd, hes, Except.map]; rfl,
              by simp only [hbefore', hd', hes', moved]; rfl, ?_, ?_⟩
            · simp only [Descriptor.withoutExtra, Descriptor.withoutExtras_append,
                Descriptor.withoutExtras_toList, Option.map_some, hds, hsame, hrest]
            · exact (unconsumed_moveUnder hflat hraw).symm

end

/-- A vision model inside the child is at fault, in both forms of the checkpoint. -/
theorem split_read_alike :
    let raw := ConfigClass.splitObject (.string "deep")
    let child := ConfigClass.mk "SplitTextConfig" [] [.mandatory "rope_theta" .float]
      [.subtree "vision_config" (.mk "SplitVisionConfig" [] [.mandatory "depth" .integer] [])]
    let nested := ConfigClass.mk "SplitConfig" ["split"] ConfigClass.split.fields
      [.subtree "text_config" child]
    let moved := moveUnder "text_config" ["rope_theta", "vision_config"] raw
    raw.lookup "text_config" = none ∧ "text_config" ∉ ConfigClass.split.consumedKeys ∧
      ∃ v w, instantiate ⟨"Split", .explicitMapping⟩ none raw .split = .error v ∧
        instantiate ⟨"Split", .explicitMapping⟩ none moved nested = .error w ∧
        v.path = "vision_config.depth" ∧ w.path = "text_config.vision_config.depth" := by
  intro raw child nested moved
  have hslot : "text_config" ∉ ConfigClass.split.consumedKeys := by decide
  have hdisjoint : ∀ key ∈ child.consumedKeys,
      key ∉ (ConfigClass.mk "SplitConfig" ["split"] ConfigClass.split.fields []).consumedKeys := by
    decide
  refine ⟨rfl, hslot, ?_⟩
  have halike := @flat_and_nested_read_alike raw "SplitConfig" ["split"]
    ConfigClass.split.fields [] [] (.flatten "text_config" child) ⟨"Split", .explicitMapping⟩ none
    rfl rfl hslot hdisjoint
  obtain ⟨d, d', hd, -⟩ | ⟨v, hv, ⟨-, hmoved, -⟩ | ⟨hother, -⟩⟩ := halike
  · cases hd
  · refine ⟨v, _, hv, hmoved, ?_, ?_⟩
    · cases hv
      decide
    · cases hv
      decide
  · exact absurd ⟨⟨_, rfl⟩, ⟨_, rfl⟩, hv⟩ hother

end Config

end ModelRegistry
