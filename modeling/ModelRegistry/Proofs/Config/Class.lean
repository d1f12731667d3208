import ModelRegistry.Config.Class

/-!
# ModelRegistry.Proofs.Config.Class

Configuration classes as trees: a class, and below it the classes of its slots.
`ConfigClass.slotInduction` is the induction that the other modules use, so that
none of them needs a second theorem about lists of slots.

Two functions of the model are turned into what they say. `checkWellFormed`
succeeds exactly when the class is `Checked`, and `consumedKeys` lists exactly the
keys that the class `Reads`.
-/

namespace ModelRegistry

namespace ConfigClass

/-! ## Induction -/

mutual

/-- Induction over a class: what holds of a class whenever it holds of the classes of its slots
holds of every class. -/
@[elab_as_elim]
theorem slotInduction {motive : ConfigClass → Prop}
    (node : ∀ c : ConfigClass, (∀ slot ∈ c.slots, motive slot.child) → motive c) :
    (c : ConfigClass) → motive c
  | .mk _ _ _ slots => node _ (slotInductionAll node slots)

/-- The induction for all slots of a list. -/
theorem slotInductionAll {motive : ConfigClass → Prop}
    (node : ∀ c : ConfigClass, (∀ slot ∈ c.slots, motive slot.child) → motive c) :
    (slots : List (Slot ConfigClass)) → ∀ slot ∈ slots, motive slot.child
  | [], _, h => (List.not_mem_nil h).elim
  | ⟨_, child, _, _⟩ :: rest, slot, h => by
      rcases List.mem_cons.mp h with rfl | h
      · exact slotInduction node child
      · exact slotInductionAll node rest slot h

end

/-! ## Well-formedness -/

/-- What the check of a class establishes about it. -/
structure Checked (c : ConfigClass) : Prop where
  named : Text.trimChars c.name.toList ≠ []
  /-- No field or slot repeats a name. -/
  distinct : (c.fields.map (·.name) ++ c.slots.map (·.name)).Nodup
  /-- Only optional fields have defaults, and a default has the type of its field. -/
  defaults : ∀ spec ∈ c.fields, ∀ value, spec.default = some value →
    spec.required = false ∧ (FieldValue.ofJson? spec.type value).isSome
  children : ∀ slot ∈ c.slots, slot.child.checkWellFormed = .ok ()

theorem firstRepeated?_eq_none_iff (seen names : List String) :
    firstRepeated? seen names = none ↔ names.Nodup ∧ ∀ name ∈ names, name ∉ seen := by
  induction names generalizing seen with
  | nil => simp [firstRepeated?]
  | cons name rest ih =>
      by_cases h : name ∈ seen
      · simp [firstRepeated?, h]
      · simp only [firstRepeated?, h, if_false, ih, List.nodup_cons, List.mem_cons]
        grind

theorem checkDefault_eq_ok_iff (className : String) (spec : FieldSpec) :
    checkDefault className spec = .ok () ↔ ∀ value, spec.default = some value →
      spec.required = false ∧ (FieldValue.ofJson? spec.type value).isSome := by
  unfold checkDefault
  cases spec.default with
  | none => simp
  | some value =>
      cases spec.required <;> cases h : FieldValue.ofJson? spec.type value <;> simp [h]

theorem checkDefaults_eq_ok_iff (className : String) (specs : List FieldSpec) :
    checkDefaults className specs = .ok () ↔
      ∀ spec ∈ specs, checkDefault className spec = .ok () := by
  induction specs with
  | nil => simp [checkDefaults]
  | cons spec rest ih =>
      cases h : checkDefault className spec with
      | error e => simp [checkDefaults, h]
      | ok => simp [checkDefaults, h, ih]

theorem checkSlots_eq_ok_iff (className : String) (slots : List (Slot ConfigClass)) :
    checkSlots className slots = .ok () ↔
      ∀ slot ∈ slots, slot.child.checkWellFormed = .ok () := by
  induction slots with
  | nil => simp [checkSlots]
  | cons slot rest ih =>
      cases h : slot.child.checkWellFormed with
      | error e => simp [checkSlots, h]
      | ok => simp [checkSlots, h, ih]

/-- The check of a class succeeds exactly when the class is as it should be. -/
theorem checkWellFormed_eq_ok_iff (c : ConfigClass) :
    c.checkWellFormed = .ok () ↔ c.Checked := by
  obtain ⟨name, modelTypes, fields, slots⟩ := c
  have hdistinct := firstRepeated?_eq_none_iff [] (fields.map (·.name) ++ slots.map (·.name))
  have hdefaults := checkDefaults_eq_ok_iff name fields
  have hslots := checkSlots_eq_ok_iff name slots
  simp only [checkDefault_eq_ok_iff] at hdefaults
  constructor
  · intro h
    unfold checkWellFormed at h
    split at h
    · contradiction
    · next hname =>
      split at h
      · contradiction
      · next hnone =>
        split at h
        · contradiction
        · next hok =>
          exact ⟨by simpa [ConfigClass.name] using hname, (hdistinct.mp hnone).1,
            hdefaults.mp hok, hslots.mp h⟩
  · intro h
    have hname : (Text.trimChars name.toList).isEmpty = false := by
      simpa [ConfigClass.name] using h.named
    rw [checkWellFormed, hname, hdistinct.mpr ⟨h.distinct, by simp⟩, hdefaults.mpr h.defaults]
    exact hslots.mpr h.children

/-! ## Keys -/

/-- The keys of a raw object that a class reads: those of its fields and of its subtree slots,
and the keys that its flattened children read. -/
inductive Reads : ConfigClass → String → Prop where
  | field {c : ConfigClass} {spec : FieldSpec} : spec ∈ c.fields → Reads c spec.name
  | subtree {c : ConfigClass} {slot : Slot ConfigClass} :
      slot ∈ c.slots → slot.flattened = false → Reads c slot.name
  | flattened {c : ConfigClass} {slot : Slot ConfigClass} {key : String} :
      slot ∈ c.slots → slot.flattened = true → Reads slot.child key → Reads c key

theorem mem_slotKeys (slots : List (Slot ConfigClass)) (key : String) :
    key ∈ slotKeys slots ↔ ∃ slot ∈ slots,
      (slot.flattened = true ∧ key ∈ slot.child.consumedKeys) ∨
        (slot.flattened = false ∧ key = slot.name) := by
  induction slots with
  | nil => simp [slotKeys]
  | cons slot rest ih =>
      obtain ⟨name, child, required, flattened⟩ := slot
      cases flattened <;> simp [slotKeys, ih]

/-- The consumed keys are those that the class reads. -/
theorem mem_consumedKeys (c : ConfigClass) (key : String) :
    key ∈ c.consumedKeys ↔ c.Reads key := by
  induction c using slotInduction generalizing key with
  | node c ih =>
      obtain ⟨name, modelTypes, fields, slots⟩ := c
      rw [consumedKeys, List.mem_append, mem_slotKeys]
      constructor
      · intro hkey
        obtain h | ⟨slot, hslot, ⟨hflat, h⟩ | ⟨hflat, rfl⟩⟩ := hkey
        · obtain ⟨spec, hspec, rfl⟩ := List.mem_map.mp h
          exact .field hspec
        · exact .flattened hslot hflat ((ih slot hslot key).mp h)
        · exact .subtree hslot hflat
      · intro h
        cases h with
        | field hspec => exact .inl (List.mem_map_of_mem hspec)
        | subtree hslot hflat => exact .inr ⟨_, hslot, .inr ⟨hflat, rfl⟩⟩
        | flattened hslot hflat h =>
            exact .inr ⟨_, hslot, .inl ⟨hflat, (ih _ hslot key).mpr h⟩⟩

/-! ## An example -/

/-- A class for flat checkpoints: its text model is read from the object itself and has a
subtree slot for a vision model. -/
def split : ConfigClass :=
  .mk "SplitConfig" ["split"]
    [.mandatory "vocab_size" .integer, (FieldSpec.optional "tied" .bool).withDefault (.bool false)]
    [.flatten "text_config" (.mk "SplitTextConfig" [] [.mandatory "rope_theta" .float]
      [.subtree "vision_config" (.mk "SplitVisionConfig" [] [.mandatory "depth" .integer] [])])]

/-- An object for the class, with a vision model of this depth and a key of no class. -/
def splitObject (depth : Json) : Json.Object :=
  [("dtype", .string "f16"), ("rope_theta", .int 10000),
    ("vision_config", .object [("depth", depth)]), ("vocab_size", .int 7)]

end ConfigClass

end ModelRegistry
