import ModelRegistry.Proofs.Config.Reading

/-!
# ModelRegistry.Proofs.Config.Acceptance

Which raw objects a class accepts, and what is reported of one that it does not.
Two relations say it without running the reader:

* `Accepts c raw` — every field of the class fits the object, and every slot is
  filled by an object that the child class accepts;
* `FirstViolation c raw v` — `v` is wrong with the object, and everything that
  comes before it in the order of declaration fits.

For a class that passes its check the two exclude and exhaust each other
(`accepts_or_reports_first_violation`), and `instantiate` succeeds in the one case and
reports `v` in the other.
-/

namespace ModelRegistry.Config

/-! ## Acceptance -/

/-- A field fits an object: it is there if it must be, and what is there has its type. -/
structure FieldFits (raw : Json.Object) (spec : FieldSpec) : Prop where
  filled : spec.required = true → ∃ v, Holds raw spec.name v
  typed : ∀ v, Holds raw spec.name v → (FieldValue.ofJson? spec.type v).isSome

/-- What is wrong with a field that does not fit. -/
inductive FieldMisfit (raw : Json.Object) (spec : FieldSpec) : ViolationKind → Prop where
  | missing : spec.required = true → spec.default = none → (∀ v, ¬ Holds raw spec.name v) →
      FieldMisfit raw spec .missingField
  | mismatch {v : Json} : Holds raw spec.name v → FieldValue.ofJson? spec.type v = none →
      FieldMisfit raw spec (.typeMismatch spec.type (.value v.kind))

/-- What is wrong with a subtree slot before the object in it is looked at. -/
inductive SlotMisfit (raw : Json.Object) (slot : Slot ConfigClass) : ViolationKind → Prop where
  | missing : slot.required = true → (∀ v, ¬ Holds raw slot.name v) →
      SlotMisfit raw slot .missingNested
  | notAnObject {v : Json} : Holds raw slot.name v → v.object? = none →
      SlotMisfit raw slot (.notAnObject v.kind)

mutual

/-- The class accepts the object: all of its fields and slots fit. -/
inductive Accepts : ConfigClass → Json.Object → Prop where
  | intro {c : ConfigClass} {raw : Json.Object} (fields : ∀ spec ∈ c.fields, FieldFits raw spec)
      (slots : ∀ slot ∈ c.slots, SlotFits raw slot) : Accepts c raw

/-- A slot fits the parent's object: its child class accepts that object itself, if the slot is
flattened, and else the object under the slot's name; a slot that need not be filled may be
empty. -/
inductive SlotFits : Json.Object → Slot ConfigClass → Prop where
  | flattened {raw : Json.Object} {slot : Slot ConfigClass} :
      slot.flattened = true → Accepts slot.child raw → SlotFits raw slot
  | empty {raw : Json.Object} {slot : Slot ConfigClass} :
      slot.flattened = false → slot.required = false → (∀ v, ¬ Holds raw slot.name v) →
      SlotFits raw slot
  | subtree {raw members : Json.Object} {slot : Slot ConfigClass} :
      slot.flattened = false → Holds raw slot.name (.object members) →
      Accepts slot.child members → SlotFits raw slot

end

/-- The first violation of a class by an object: fields before slots, each in the order of
declaration, and whatever comes earlier fits. Only a subtree slot adds its name to the path. -/
inductive FirstViolation : ConfigClass → Json.Object → Violation → Prop where
  | field {c : ConfigClass} {raw : Json.Object} {before after : List FieldSpec}
      {spec : FieldSpec} {kind : ViolationKind} :
      c.fields = before ++ spec :: after → (∀ f ∈ before, FieldFits raw f) →
      FieldMisfit raw spec kind → FirstViolation c raw ⟨[], spec.name, kind⟩
  | slot {c : ConfigClass} {raw : Json.Object} {before after : List (Slot ConfigClass)}
      {slot : Slot ConfigClass} {kind : ViolationKind} :
      (∀ f ∈ c.fields, FieldFits raw f) → c.slots = before ++ slot :: after →
      (∀ s ∈ before, SlotFits raw s) → slot.flattened = false → SlotMisfit raw slot kind →
      FirstViolation c raw ⟨[], slot.name, kind⟩
  | flattened {c : ConfigClass} {raw : Json.Object} {before after : List (Slot ConfigClass)}
      {slot : Slot ConfigClass} {v : Violation} :
      (∀ f ∈ c.fields, FieldFits raw f) → c.slots = before ++ slot :: after →
      (∀ s ∈ before, SlotFits raw s) → slot.flattened = true →
      FirstViolation slot.child raw v → FirstViolation c raw v
  | subtree {c : ConfigClass} {raw members : Json.Object}
      {before after : List (Slot ConfigClass)} {slot : Slot ConfigClass} {v : Violation} :
      (∀ f ∈ c.fields, FieldFits raw f) → c.slots = before ++ slot :: after →
      (∀ s ∈ before, SlotFits raw s) → slot.flattened = false →
      Holds raw slot.name (.object members) → FirstViolation slot.child members v →
      FirstViolation c raw (v.inSlot slot.name)

/-! ## Fields -/

section Fields

variable {raw : Json.Object} {spec : FieldSpec}
  (hdefault : ∀ value, spec.default = some value →
    spec.required = false ∧ (FieldValue.ofJson? spec.type value).isSome)

include hdefault

/-- A required field has no default, so it is read only from what the object holds. -/
theorem holds_of_sourced_of_required (hrequired : spec.required = true) {v : Json}
    (h : Sourced raw spec v) : Holds raw spec.name v := by
  cases h with
  | held h => exact h
  | default _ h => simp [(hdefault v h).1] at hrequired

theorem fieldFits_iff_readField :
    FieldFits raw spec ↔ ∃ value?, readField raw spec = .ok value? := by
  have hread := fieldReading raw spec
  constructor
  · intro hfits
    cases hresult : readField raw spec with
    | ok value? => exact ⟨value?, rfl⟩
    | error e =>
        exfalso
        rw [hresult] at hread
        cases hread with
        | missing hnone hrequired =>
            obtain ⟨v, hv⟩ := hfits.filled hrequired
            exact hnone v (.held hv)
        | heldMismatch hv htype => simpa [htype] using hfits.typed _ hv
        | defaultMismatch _ hv htype => simpa [htype] using (hdefault _ hv).2
  · intro hreads
    obtain ⟨value?, hresult⟩ := hreads
    rw [hresult] at hread
    cases hread with
    | @value v value hsource htype =>
        refine ⟨fun hrequired => ⟨v, holds_of_sourced_of_required hdefault hrequired hsource⟩, ?_⟩
        intro w hw
        cases hsource with
        | held hv => simp [← hv.unique hw, htype]
        | default hnone => exact (hnone w hw).elim
    | absent hnone hrequired =>
        exact ⟨fun h => by simp [hrequired] at h, fun v hv => (hnone v (.held hv)).elim⟩

theorem readField_eq_error_iff (v : Violation) :
    readField raw spec = .error v ↔
      ∃ kind, FieldMisfit raw spec kind ∧ v = ⟨[], spec.name, kind⟩ := by
  have hread := fieldReading raw spec
  constructor
  · intro hresult
    rw [hresult] at hread
    cases hread with
    | missing hnone hrequired =>
        refine ⟨_, .missing hrequired ?_ fun v hv => hnone v (.held hv), rfl⟩
        rw [Option.eq_none_iff_forall_ne_some]
        intro value hvalue
        simp [(hdefault value hvalue).1] at hrequired
    | heldMismatch hv htype => exact ⟨_, .mismatch hv htype, rfl⟩
    | defaultMismatch _ hv htype => simpa [htype] using (hdefault _ hv).2
  · intro hmisfit
    obtain ⟨kind, hkind, rfl⟩ := hmisfit
    generalize readField raw spec = result at hread
    cases hkind with
    | missing hrequired hnodefault hnone =>
        cases hread with
        | value hsource =>
            exact (hnone _ (holds_of_sourced_of_required hdefault hrequired hsource)).elim
        | absent _ h => simp [hrequired] at h
        | missing => rfl
        | heldMismatch hv => exact (hnone _ hv).elim
        | defaultMismatch _ hv => simp [hnodefault] at hv
    | @mismatch w hw htype =>
        cases hread with
        | value hsource htype' =>
            cases hsource with
            | held hv => simp [hv.unique hw, htype] at htype'
            | default h => exact (h w hw).elim
        | absent h => exact (h w (.held hw)).elim
        | missing h => exact (h w (.held hw)).elim
        | heldMismatch hv => rw [hv.unique hw]
        | defaultMismatch h => exact (h w hw).elim

end Fields

/-! ## Slots -/

section Slots

variable {provenance : Provenance} {raw : Json.Object} {slot : Slot ConfigClass}

theorem slotFits_iff_readSlot
    (hchild : ∀ object, (∃ d, instantiate provenance (some slot.name) object slot.child = .ok d) ↔
      Accepts slot.child object) :
    SlotFits raw slot ↔ ∃ d?, readSlot provenance raw slot = .ok d? := by
  have hread := slotReading provenance raw slot
  constructor
  · intro hfits
    cases hresult : readSlot provenance raw slot with
    | ok d? => exact ⟨d?, rfl⟩
    | error e =>
        exfalso
        rw [hresult] at hread
        cases hfits with
        | flattened hflat haccepts =>
            obtain ⟨d, hd⟩ := (hchild raw).mpr haccepts
            cases hread with
            | flattenedError _ h => simp [hd] at h
            | unreadable h => simp [hflat] at h
            | subtreeError h => simp [hflat] at h
        | empty hflat hrequired hnone =>
            cases hread with
            | flattenedError h => simp [hflat] at h
            | unreadable _ h =>
                cases h with
                | missing _ h => simp [hrequired] at h
                | notAnObject h => exact hnone _ h
            | subtreeError _ h => exact hnone _ h
        | @subtree _ members _ hflat hholds haccepts =>
            obtain ⟨d, hd⟩ := (hchild members).mpr haccepts
            cases hread with
            | flattenedError h => simp [hflat] at h
            | unreadable _ h =>
                cases h with
                | missing h => exact h _ hholds
                | notAnObject h hobject => simp [h.unique hholds, Json.object?] at hobject
            | subtreeError _ h hchild' =>
                obtain rfl := Json.object.inj (h.unique hholds)
                simp [hd] at hchild'
  · intro hreads
    obtain ⟨d?, hresult⟩ := hreads
    rw [hresult] at hread
    cases hread with
    | flattened hflat h => exact .flattened hflat ((hchild raw).mp ⟨_, h⟩)
    | empty hflat hnone hrequired => exact .empty hflat hrequired hnone
    | subtree hflat hholds h => exact .subtree hflat hholds ((hchild _).mp ⟨_, h⟩)

/-- A flattened slot reports what its child reports; a subtree slot reports what is wrong with
itself, or what its child reports with its own name in front of the path. -/
theorem readSlot_eq_error_iff (v : Violation) :
    readSlot provenance raw slot = .error v ↔
      (slot.flattened = true ∧
        instantiate provenance (some slot.name) raw slot.child = .error v) ∨
      (slot.flattened = false ∧
        ((∃ kind, SlotMisfit raw slot kind ∧ v = ⟨[], slot.name, kind⟩) ∨
          ∃ members w, Holds raw slot.name (.object members) ∧
            instantiate provenance (some slot.name) members slot.child = .error w ∧
            v = w.inSlot slot.name)) := by
  have hread := slotReading provenance raw slot
  constructor
  · intro hresult
    rw [hresult] at hread
    cases hread with
    | flattenedError hflat h => exact .inl ⟨hflat, h⟩
    | unreadable hflat h =>
        cases h with
        | missing hnone hrequired => exact .inr ⟨hflat, .inl ⟨_, .missing hrequired hnone, rfl⟩⟩
        | notAnObject hv hobject => exact .inr ⟨hflat, .inl ⟨_, .notAnObject hv hobject, rfl⟩⟩
    | subtreeError hflat hholds h => exact .inr ⟨hflat, .inr ⟨_, _, hholds, h, rfl⟩⟩
  · intro hmisfit
    obtain ⟨hflat, h⟩ | ⟨hflat, ⟨kind, hkind, rfl⟩ | ⟨members, w, hholds, h, rfl⟩⟩ := hmisfit
    · simp [readSlot, hflat, h]
    · have hsub := subtreeReading raw slot.name slot.required
      have herror : subtree? raw slot.name slot.required = .error ⟨[], slot.name, kind⟩ := by
        generalize subtree? raw slot.name slot.required = result at hsub
        cases hkind with
        | missing hrequired hnone =>
            cases hsub with
            | object h => exact (hnone _ h).elim
            | empty _ h => simp [hrequired] at h
            | missing => rfl
            | notAnObject h => exact (hnone _ h).elim
        | notAnObject hv hobject =>
            cases hsub with
            | object h => simp [hv.unique h, Json.object?] at hobject
            | empty h => exact (h _ hv).elim
            | missing h => exact (h _ hv).elim
            | notAnObject h => rw [h.unique hv]
      simp [readSlot, hflat, herror]
    · have hpresent := (present?_eq_some_iff raw slot.name _).mpr hholds
      simp [readSlot, subtree?, hflat, hpresent, h]

end Slots

/-! ## Classes -/

theorem instantiate_succeeds_iff_accepts {c : ConfigClass} (hc : c.checkWellFormed = .ok ())
    (provenance : Provenance) (slot : Option String) (raw : Json.Object) :
    (∃ d, instantiate provenance slot raw c = .ok d) ↔ Accepts c raw := by
  induction c using ConfigClass.slotInduction generalizing slot raw with
  | node c ih =>
      have hchecked := (ConfigClass.checkWellFormed_eq_ok_iff c).mp hc
      have hfield : ∀ spec ∈ c.fields,
          (FieldFits raw spec ↔ ∃ value?, readField raw spec = .ok value?) := fun spec hspec =>
        fieldFits_iff_readField (hchecked.defaults spec hspec)
      have hslot : ∀ s ∈ c.slots,
          (SlotFits raw s ↔ ∃ d?, readSlot provenance raw s = .ok d?) := fun s hs =>
        slotFits_iff_readSlot fun object =>
          ih s hs (hchecked.children s hs) (some s.name) object
      rw [instantiate_succeeds_iff]
      constructor
      · intro hread
        obtain ⟨hfields, hslots⟩ := hread
        exact .intro (fun spec hspec => (hfield spec hspec).mpr (hfields spec hspec))
          fun s hs => (hslot s hs).mpr (hslots s hs)
      · intro haccepts
        obtain ⟨hfields, hslots⟩ := haccepts
        exact ⟨fun spec hspec => (hfield spec hspec).mp (hfields spec hspec),
          fun s hs => (hslot s hs).mp (hslots s hs)⟩

theorem instantiate_eq_error_iff_firstViolation {c : ConfigClass}
    (hc : c.checkWellFormed = .ok ()) (provenance : Provenance) (slot : Option String)
    (raw : Json.Object) (v : Violation) :
    instantiate provenance slot raw c = .error v ↔ FirstViolation c raw v := by
  induction c using ConfigClass.slotInduction generalizing slot raw v with
  | node c ih =>
      have hchecked := (ConfigClass.checkWellFormed_eq_ok_iff c).mp hc
      have hfield : ∀ spec ∈ c.fields,
          (FieldFits raw spec ↔ ∃ value?, readField raw spec = .ok value?) := fun spec hspec =>
        fieldFits_iff_readField (hchecked.defaults spec hspec)
      have hslot : ∀ s ∈ c.slots,
          (SlotFits raw s ↔ ∃ d?, readSlot provenance raw s = .ok d?) := fun s hs =>
        slotFits_iff_readSlot fun object =>
          instantiate_succeeds_iff_accepts (hchecked.children s hs) provenance (some s.name) object
      rw [instantiate_eq_error_iff]
      constructor
      · intro hfails
        obtain ⟨before, spec, after, hsplit, hbefore, hread⟩ |
          ⟨hfields, before, s, after, hsplit, hbefore, hread⟩ := hfails
        · have hspec : spec ∈ c.fields := by simp [hsplit]
          have hfits : ∀ f ∈ before, FieldFits raw f := fun f hf =>
            (hfield f (by simp [hsplit, hf])).mpr (hbefore f hf)
          obtain ⟨kind, hkind, rfl⟩ :=
            (readField_eq_error_iff (hchecked.defaults spec hspec) v).mp hread
          exact .field hsplit hfits hkind
        · have hs : s ∈ c.slots := by simp [hsplit]
          have hfits := fun f hf => (hfield f hf).mpr (hfields f hf)
          have hearlier : ∀ t ∈ before, SlotFits raw t := fun t ht =>
            (hslot t (by simp [hsplit, ht])).mpr (hbefore t ht)
          rcases (readSlot_eq_error_iff v).mp hread with
            ⟨hflat, h⟩ | ⟨hflat, ⟨kind, hkind, rfl⟩ | ⟨members, w, hholds, h, rfl⟩⟩
          · exact .flattened hfits hsplit hearlier hflat
              ((ih s hs (hchecked.children s hs) (some s.name) raw v).mp h)
          · exact .slot hfits hsplit hearlier hflat hkind
          · exact .subtree hfits hsplit hearlier hflat hholds
              ((ih s hs (hchecked.children s hs) (some s.name) members w).mp h)
      · intro h
        cases h with
        | @field _ _ before after spec kind hsplit hbefore hkind =>
            have hspec : spec ∈ c.fields := by simp [hsplit]
            exact .inl ⟨before, spec, after, hsplit,
              fun f hf => (hfield f (by simp [hsplit, hf])).mp (hbefore f hf),
              (readField_eq_error_iff (hchecked.defaults spec hspec) _).mpr ⟨kind, hkind, rfl⟩⟩
        | @slot _ _ before after s kind hfits hsplit hbefore hflat hkind =>
            exact .inr ⟨fun f hf => (hfield f hf).mp (hfits f hf), before, s, after, hsplit,
              fun t ht => (hslot t (by simp [hsplit, ht])).mp (hbefore t ht),
              (readSlot_eq_error_iff _).mpr (.inr ⟨hflat, .inl ⟨kind, hkind, rfl⟩⟩)⟩
        | @flattened _ _ before after s _ hfits hsplit hbefore hflat h =>
            have hs : s ∈ c.slots := by simp [hsplit]
            have herror := (ih s hs (hchecked.children s hs) (some s.name) raw v).mpr h
            exact .inr ⟨fun f hf => (hfield f hf).mp (hfits f hf), before, s, after, hsplit,
              fun t ht => (hslot t (by simp [hsplit, ht])).mp (hbefore t ht),
              (readSlot_eq_error_iff _).mpr (.inl ⟨hflat, herror⟩)⟩
        | @subtree _ _ members before after s w hfits hsplit hbefore hflat hholds h =>
            have hs : s ∈ c.slots := by simp [hsplit]
            have herror := (ih s hs (hchecked.children s hs) (some s.name) members w).mpr h
            exact .inr ⟨fun f hf => (hfield f hf).mp (hfits f hf), before, s, after, hsplit,
              fun t ht => (hslot t (by simp [hsplit, ht])).mp (hbefore t ht),
              (readSlot_eq_error_iff _).mpr
                (.inr ⟨hflat, .inr ⟨members, w, hholds, herror, rfl⟩⟩)⟩

/-! ## The place of a violation -/

/-- From a class and an object, the path of subtree slots leads to a class and an object below
them. Flattened slots stay at the object and add nothing to the path. -/
inductive Reaches : ConfigClass → Json.Object → List String → ConfigClass → Json.Object → Prop where
  | here {c : ConfigClass} {raw : Json.Object} : Reaches c raw [] c raw
  | flattened {c child : ConfigClass} {raw object : Json.Object} {slot : Slot ConfigClass}
      {path : List String} :
      slot ∈ c.slots → slot.flattened = true → Reaches slot.child raw path child object →
      Reaches c raw path child object
  | subtree {c child : ConfigClass} {raw members object : Json.Object} {slot : Slot ConfigClass}
      {path : List String} :
      slot ∈ c.slots → slot.flattened = false → Holds raw slot.name (.object members) →
      Reaches slot.child members path child object →
      Reaches c raw (slot.name :: path) child object

/-- Something at the top of the class is wrong with the object, under this name. -/
inductive Misfit (c : ConfigClass) (raw : Json.Object) : String → ViolationKind → Prop where
  | field {spec : FieldSpec} {kind : ViolationKind} :
      spec ∈ c.fields → FieldMisfit raw spec kind → Misfit c raw spec.name kind
  | slot {slot : Slot ConfigClass} {kind : ViolationKind} :
      slot ∈ c.slots → slot.flattened = false → SlotMisfit raw slot kind →
      Misfit c raw slot.name kind

/-- The path of the first violation leads to the object that is at fault. -/
theorem FirstViolation.reaches {c : ConfigClass} {raw : Json.Object} {v : Violation}
    (h : FirstViolation c raw v) :
    ∃ child object, Reaches c raw v.slots child object ∧ Misfit child object v.name v.kind := by
  induction h with
  | @field c raw before after spec kind hsplit _ hkind =>
      exact ⟨c, raw, .here, .field (by simp [hsplit]) hkind⟩
  | @slot c raw before after s kind _ hsplit _ hflat hkind =>
      exact ⟨c, raw, .here, .slot (by simp [hsplit]) hflat hkind⟩
  | flattened _ hsplit _ hflat _ ih =>
      obtain ⟨child, object, hreach, hmisfit⟩ := ih
      exact ⟨child, object, .flattened (by simp [hsplit]) hflat hreach, hmisfit⟩
  | subtree _ hsplit _ hflat hholds _ ih =>
      obtain ⟨child, object, hreach, hmisfit⟩ := ih
      exact ⟨child, object, .subtree (by simp [hsplit]) hflat hholds hreach, hmisfit⟩

/-! ## Main theorem -/

/-- **Exact acceptance, truthful diagnosis**: a class that passes its check reads exactly the
objects that it accepts. Of any other it reports the first violation, whose path names the
subtree slots down to the object at fault, and whose kind is true of that object. -/
theorem accepts_or_reports_first_violation {c : ConfigClass} (hc : c.checkWellFormed = .ok ())
    (provenance : Provenance) (slot : Option String) (raw : Json.Object) :
    ((∃ d, instantiate provenance slot raw c = .ok d) ↔ Accepts c raw) ∧
    (∀ v, instantiate provenance slot raw c = .error v ↔ FirstViolation c raw v) ∧
    ∀ v, instantiate provenance slot raw c = .error v →
      ∃ path name child object, Reaches c raw path child object ∧
        Misfit child object name v.kind ∧ v.path = ".".intercalate (path ++ [name]) := by
  refine ⟨instantiate_succeeds_iff_accepts hc provenance slot raw,
    instantiate_eq_error_iff_firstViolation hc provenance slot raw, ?_⟩
  intro v h
  have hfirst := (instantiate_eq_error_iff_firstViolation hc provenance slot raw v).mp h
  obtain ⟨child, object, hreach, hmisfit⟩ := hfirst.reaches
  exact ⟨v.slots, v.name, child, object, hreach, hmisfit, rfl⟩

/-- A vision model below a flattened slot is at fault, and only its own slot is on the path. -/
theorem split_reports_vision_depth :
    ConfigClass.split.checkWellFormed = .ok () ∧
      FirstViolation .split (ConfigClass.splitObject (.string "deep"))
        ⟨["vision_config"], "depth", .typeMismatch .integer (.value .string)⟩ :=
  ⟨rfl, ((accepts_or_reports_first_violation rfl ⟨"Split", .explicitMapping⟩ none
    (ConfigClass.splitObject (.string "deep"))).2.1 _).mp rfl⟩

end ModelRegistry.Config
