import ModelRegistry.Config.Instantiate
import ModelRegistry.Proofs.Config.Class

/-!
# ModelRegistry.Proofs.Config.Reading

What the reader of raw objects does, one function at a time. Each function gets
an equivalence for every way in which it can end, stated by what the object
`Holds`; the modules about acceptance and about descriptors use these and open
none of the functions.

A list of fields or slots is read until the first that fails. `FirstFails` says
that once for both.
-/

namespace ModelRegistry.Config

/-! ## Reading lists -/

section FirstFails

variable {α β ε : Type} {f : α → Except ε β}

/-- `f` fails with `e` on an element of the list, and succeeds on all elements before it. -/
def FirstFails (f : α → Except ε β) (xs : List α) (e : ε) : Prop :=
  ∃ before x after, xs = before ++ x :: after ∧ (∀ y ∈ before, ∃ z, f y = .ok z) ∧ f x = .error e

theorem not_firstFails_nil (e : ε) : ¬ FirstFails f [] e := by
  intro hfails
  obtain ⟨before, x, after, h, -, -⟩ := hfails
  simp at h

theorem firstFails_cons (x : α) (xs : List α) (e : ε) :
    FirstFails f (x :: xs) e ↔ f x = .error e ∨ (∃ z, f x = .ok z) ∧ FirstFails f xs e := by
  constructor
  · intro hfails
    obtain ⟨before, y, after, hxs, hbefore, hy⟩ := hfails
    cases before with
    | nil =>
        obtain ⟨rfl, rfl⟩ := List.cons.inj hxs
        exact .inl hy
    | cons b before =>
        obtain ⟨rfl, rfl⟩ := List.cons.inj hxs
        exact .inr ⟨hbefore x List.mem_cons_self, before, y, after, rfl,
          fun z hz => hbefore z (List.mem_cons_of_mem x hz), hy⟩
  · intro hfails
    obtain h | ⟨hx, before, y, after, rfl, hbefore, hy⟩ := hfails
    · exact ⟨[], x, xs, rfl, fun y hy => (List.not_mem_nil hy).elim, h⟩
    · refine ⟨x :: before, y, after, rfl, ?_, hy⟩
      intro z hz
      rcases List.mem_cons.mp hz with rfl | hz
      · exact hx
      · exact hbefore z hz

end FirstFails

/-! ## Keys that are present -/

/-- The object has a value other than null under the key. -/
def Holds (raw : Json.Object) (key : String) (v : Json) : Prop :=
  raw.lookup key = some v ∧ v ≠ .null

theorem Holds.unique {raw : Json.Object} {key : String} {v w : Json} (hv : Holds raw key v)
    (hw : Holds raw key w) : v = w :=
  Option.some.inj (hv.1.symm.trans hw.1)

theorem present?_eq_some_iff (raw : Json.Object) (key : String) (v : Json) :
    present? raw key = some v ↔ Holds raw key v := by
  unfold present? Holds
  rw [Option.filter_eq_some_iff]
  cases v <;> simp [Json.isNull]

theorem present?_eq_none_iff (raw : Json.Object) (key : String) :
    present? raw key = none ↔ ∀ v, ¬ Holds raw key v := by
  rw [Option.eq_none_iff_forall_ne_some]
  simp only [ne_eq, present?_eq_some_iff]

/-! ## Fields -/

/-- The value that a field is read from: the one that the object holds, else the default. -/
inductive Sourced (raw : Json.Object) (spec : FieldSpec) : Json → Prop where
  | held {v : Json} : Holds raw spec.name v → Sourced raw spec v
  | default {v : Json} : (∀ w, ¬ Holds raw spec.name w) → spec.default = some v →
      Sourced raw spec v

/-- A field is read in one of four ways. -/
inductive FieldReading (raw : Json.Object) (spec : FieldSpec) :
    Except Violation (Option FieldValue) → Prop where
  | value {v : Json} {value : FieldValue} : Sourced raw spec v →
      FieldValue.ofJson? spec.type v = some value → FieldReading raw spec (.ok (some value))
  | absent : (∀ v, ¬ Sourced raw spec v) → spec.required = false →
      FieldReading raw spec (.ok none)
  | missing : (∀ v, ¬ Sourced raw spec v) → spec.required = true →
      FieldReading raw spec (.error ⟨[], spec.name, .missingField⟩)
  | heldMismatch {v : Json} : Holds raw spec.name v → FieldValue.ofJson? spec.type v = none →
      FieldReading raw spec (.error ⟨[], spec.name, .typeMismatch spec.type (.value v.kind)⟩)
  | defaultMismatch {v : Json} : (∀ w, ¬ Holds raw spec.name w) → spec.default = some v →
      FieldValue.ofJson? spec.type v = none →
      FieldReading raw spec (.error ⟨[], spec.name, .typeMismatch spec.type .default⟩)

theorem fieldReading (raw : Json.Object) (spec : FieldSpec) :
    FieldReading raw spec (readField raw spec) := by
  unfold readField
  cases hp : present? raw spec.name with
  | some v =>
      have hv := (present?_eq_some_iff raw spec.name v).mp hp
      cases ht : FieldValue.ofJson? spec.type v with
      | some value => simpa [ht] using .value (.held hv) ht
      | none => simpa [ht] using .heldMismatch hv ht
  | none =>
      have hv := (present?_eq_none_iff raw spec.name).mp hp
      cases hd : spec.default with
      | some v =>
          cases ht : FieldValue.ofJson? spec.type v with
          | some value => simpa [ht] using .value (.default hv hd) ht
          | none => simpa [ht] using .defaultMismatch hv hd ht
      | none =>
          have hnone : ∀ v, ¬ Sourced raw spec v := by
            intro v hsourced
            cases hsourced with
            | held h => exact hv v h
            | default _ h => simp [hd] at h
          cases hr : spec.required with
          | true => simpa using .missing hnone hr
          | false => simpa using .absent hnone hr

theorem readFields_eq_error_iff (raw : Json.Object) (done : Members FieldValue)
    (specs : List FieldSpec) (v : Violation) :
    readFields raw done specs = .error v ↔ FirstFails (readField raw) specs v := by
  induction specs generalizing done with
  | nil => simp [readFields, not_firstFails_nil]
  | cons spec rest ih =>
      rw [firstFails_cons, readFields]
      cases h : readField raw spec with
      | error e => simp
      | ok value? => cases value? <;> simp [ih]

theorem readFields_eq_ok_iff (raw : Json.Object) (done : Members FieldValue)
    (specs : List FieldSpec) :
    (∃ values, readFields raw done specs = .ok values) ↔
      ∀ spec ∈ specs, ∃ value?, readField raw spec = .ok value? := by
  induction specs generalizing done with
  | nil => simp [readFields]
  | cons spec rest ih =>
      rw [List.forall_mem_cons, readFields]
      cases h : readField raw spec with
      | error e => simp
      | ok value? => cases value? <;> simp [ih]

/-- A name that no field has keeps its value. -/
theorem lookup_of_readFields_of_ne {raw : Json.Object} {done values : Members FieldValue}
    {specs : List FieldSpec} {name : String} (hne : ∀ spec ∈ specs, spec.name ≠ name)
    (h : readFields raw done specs = .ok values) : values.lookup name = done.lookup name := by
  induction specs generalizing done with
  | nil =>
      obtain rfl : done = values := by simpa [readFields] using h
      rfl
  | cons spec rest ih =>
      rw [List.forall_mem_cons] at hne
      rw [readFields] at h
      cases hread : readField raw spec with
      | error v => simp [hread] at h
      | ok value? =>
          cases value? with
          | none =>
              simp only [hread] at h
              exact ih hne.2 h
          | some value =>
              simp only [hread] at h
              rw [ih hne.2 h, Members.lookup_insert, if_neg (Ne.symm hne.1)]

/-- Under the name of a field stands what was read for it. -/
theorem lookup_of_readFields {raw : Json.Object} {done values : Members FieldValue}
    {specs : List FieldSpec} {spec : FieldSpec} {value? : Option FieldValue}
    (hnames : (specs.map (·.name)).Nodup) (h : readFields raw done specs = .ok values)
    (hspec : spec ∈ specs) (hread : readField raw spec = .ok value?) :
    values.lookup spec.name = value?.or (done.lookup spec.name) := by
  induction specs generalizing done with
  | nil => exact (List.not_mem_nil hspec).elim
  | cons first rest ih =>
      rw [List.map_cons, List.nodup_cons] at hnames
      have hne : ∀ other ∈ rest, other.name ≠ first.name := fun other hother heq =>
        hnames.1 (heq ▸ List.mem_map_of_mem hother)
      rw [readFields] at h
      rcases List.mem_cons.mp hspec with rfl | hmem
      · cases value? with
        | none =>
            simp only [hread] at h
            exact lookup_of_readFields_of_ne hne h
        | some value =>
            simp only [hread] at h
            rw [lookup_of_readFields_of_ne hne h, Members.lookup_insert, if_pos rfl]
            rfl
      · cases hfirst : readField raw first with
        | error v => simp [hfirst] at h
        | ok first? =>
            cases first? with
            | none =>
                simp only [hfirst] at h
                exact ih hnames.2 h hmem
            | some value =>
                simp only [hfirst] at h
                rw [ih hnames.2 h hmem, Members.lookup_insert, if_neg (hne spec hmem)]

/-! ## Slots -/

/-- The object that a subtree slot reads is found in one of four ways. -/
inductive SubtreeReading (raw : Json.Object) (slot : String) (required : Bool) :
    Except Violation (Option Json.Object) → Prop where
  | object {members : Json.Object} : Holds raw slot (.object members) →
      SubtreeReading raw slot required (.ok (some members))
  | empty : (∀ v, ¬ Holds raw slot v) → required = false →
      SubtreeReading raw slot required (.ok none)
  | missing : (∀ v, ¬ Holds raw slot v) → required = true →
      SubtreeReading raw slot required (.error ⟨[], slot, .missingNested⟩)
  | notAnObject {v : Json} : Holds raw slot v → v.object? = none →
      SubtreeReading raw slot required (.error ⟨[], slot, .notAnObject v.kind⟩)

theorem subtreeReading (raw : Json.Object) (slot : String) (required : Bool) :
    SubtreeReading raw slot required (subtree? raw slot required) := by
  unfold subtree?
  cases hp : present? raw slot with
  | none =>
      have hv := (present?_eq_none_iff raw slot).mp hp
      cases required with
      | true => simpa using .missing hv rfl
      | false => simpa using .empty hv rfl
  | some v =>
      have hv := (present?_eq_some_iff raw slot v).mp hp
      cases v with
      | object members => exact .object hv
      | null => exact .notAnObject hv rfl
      | bool b => exact .notAnObject hv rfl
      | number n => exact .notAnObject hv rfl
      | string s => exact .notAnObject hv rfl
      | array items => exact .notAnObject hv rfl

/-- Reads one slot: no descriptor for an empty one. -/
def readSlot (provenance : Provenance) (raw : Json.Object) (slot : Slot ConfigClass) :
    Except Violation (Option Descriptor) :=
  if slot.flattened then
    match instantiate provenance (some slot.name) raw slot.child with
    | .ok d => .ok (some d)
    | .error v => .error v
  else
    match subtree? raw slot.name slot.required with
    | .error v => .error v
    | .ok none => .ok none
    | .ok (some members) =>
      match instantiate provenance (some slot.name) members slot.child with
      | .ok d => .ok (some d)
      | .error v => .error (v.inSlot slot.name)

/-- A slot is read in one of six ways. -/
inductive SlotReading (provenance : Provenance) (raw : Json.Object) (slot : Slot ConfigClass) :
    Except Violation (Option Descriptor) → Prop where
  | flattened {d : Descriptor} : slot.flattened = true →
      instantiate provenance (some slot.name) raw slot.child = .ok d →
      SlotReading provenance raw slot (.ok (some d))
  | flattenedError {v : Violation} : slot.flattened = true →
      instantiate provenance (some slot.name) raw slot.child = .error v →
      SlotReading provenance raw slot (.error v)
  | empty : slot.flattened = false → (∀ v, ¬ Holds raw slot.name v) → slot.required = false →
      SlotReading provenance raw slot (.ok none)
  | unreadable {v : Violation} : slot.flattened = false →
      SubtreeReading raw slot.name slot.required (.error v) →
      SlotReading provenance raw slot (.error v)
  | subtree {members : Json.Object} {d : Descriptor} : slot.flattened = false →
      Holds raw slot.name (.object members) →
      instantiate provenance (some slot.name) members slot.child = .ok d →
      SlotReading provenance raw slot (.ok (some d))
  | subtreeError {members : Json.Object} {v : Violation} : slot.flattened = false →
      Holds raw slot.name (.object members) →
      instantiate provenance (some slot.name) members slot.child = .error v →
      SlotReading provenance raw slot (.error (v.inSlot slot.name))

theorem slotReading (provenance : Provenance) (raw : Json.Object) (slot : Slot ConfigClass) :
    SlotReading provenance raw slot (readSlot provenance raw slot) := by
  unfold readSlot
  cases hflat : slot.flattened with
  | true =>
      cases h : instantiate provenance (some slot.name) raw slot.child with
      | ok d => simpa using .flattened hflat h
      | error v => simpa using .flattenedError hflat h
  | false =>
      have hsub := subtreeReading raw slot.name slot.required
      cases hread : subtree? raw slot.name slot.required with
      | error v => simpa using .unreadable hflat (hread ▸ hsub)
      | ok members? =>
          rw [hread] at hsub
          cases hsub with
          | empty hnone hreq => simpa using .empty hflat hnone hreq
          | @object members hmembers =>
              cases h : instantiate provenance (some slot.name) members slot.child with
              | ok d => simpa [h] using .subtree hflat hmembers h
              | error v => simpa [h] using .subtreeError hflat hmembers h

theorem instantiateSlots_cons (provenance : Provenance) (raw : Json.Object)
    (slot : Slot ConfigClass) (rest : List (Slot ConfigClass)) :
    instantiateSlots provenance raw (slot :: rest) =
      match readSlot provenance raw slot with
      | .error v => .error v
      | .ok d? =>
        match instantiateSlots provenance raw rest with
        | .error v => .error v
        | .ok nested => .ok (d?.toList ++ nested) := by
  rw [instantiateSlots]
  rfl

theorem instantiateSlots_cons_eq_ok_iff (provenance : Provenance) (raw : Json.Object)
    (slot : Slot ConfigClass) (rest : List (Slot ConfigClass)) (nested : List Descriptor) :
    instantiateSlots provenance raw (slot :: rest) = .ok nested ↔
      ∃ d? ds, readSlot provenance raw slot = .ok d? ∧
        instantiateSlots provenance raw rest = .ok ds ∧ nested = d?.toList ++ ds := by
  rw [instantiateSlots_cons]
  cases readSlot provenance raw slot with
  | error v => simp
  | ok d? => cases instantiateSlots provenance raw rest <;> simp [eq_comm]

theorem instantiateSlots_eq_error_iff (provenance : Provenance) (raw : Json.Object)
    (slots : List (Slot ConfigClass)) (v : Violation) :
    instantiateSlots provenance raw slots = .error v ↔
      FirstFails (readSlot provenance raw) slots v := by
  induction slots with
  | nil => simp [instantiateSlots, not_firstFails_nil]
  | cons slot rest ih =>
      rw [firstFails_cons, instantiateSlots_cons, ← ih]
      cases h : readSlot provenance raw slot with
      | error e => simp
      | ok d? => cases instantiateSlots provenance raw rest <;> simp

theorem instantiateSlots_eq_ok_iff (provenance : Provenance) (raw : Json.Object)
    (slots : List (Slot ConfigClass)) :
    (∃ nested, instantiateSlots provenance raw slots = .ok nested) ↔
      ∀ slot ∈ slots, ∃ d?, readSlot provenance raw slot = .ok d? := by
  induction slots with
  | nil => simp [instantiateSlots]
  | cons slot rest ih =>
      rw [List.forall_mem_cons, instantiateSlots_cons, ← ih]
      cases h : readSlot provenance raw slot with
      | error e => simp
      | ok d? => cases instantiateSlots provenance raw rest <;> simp

/-! ## Classes -/

theorem instantiate_eq_error_iff (provenance : Provenance) (slot : Option String)
    (raw : Json.Object) (c : ConfigClass) (v : Violation) :
    instantiate provenance slot raw c = .error v ↔
      FirstFails (readField raw) c.fields v ∨
        (∀ spec ∈ c.fields, ∃ value?, readField raw spec = .ok value?) ∧
          FirstFails (readSlot provenance raw) c.slots v := by
  obtain ⟨name, modelTypes, fields, slots⟩ := c
  have hfields := readFields_eq_error_iff raw [] fields v
  have hread := readFields_eq_ok_iff raw [] fields
  have hslots := instantiateSlots_eq_error_iff provenance raw slots v
  rw [ConfigClass.fields, ConfigClass.slots, ← hfields, ← hread, ← hslots, instantiate]
  cases readFields raw [] fields with
  | error e => simp
  | ok values => cases instantiateSlots provenance raw slots <;> simp

/-- A class reads an object into a descriptor of its fields, the descriptors of its slots and
the keys that it does not consume. -/
theorem instantiate_eq_ok_iff (provenance : Provenance) (slot : Option String)
    (raw : Json.Object) (c : ConfigClass) (d : Descriptor) :
    instantiate provenance slot raw c = .ok d ↔
      ∃ values nested, readFields raw [] c.fields = .ok values ∧
        instantiateSlots provenance raw c.slots = .ok nested ∧
        d = .mk provenance c.name slot values nested (unconsumed c.consumedKeys raw) := by
  obtain ⟨name, modelTypes, fields, slots⟩ := c
  rw [instantiate, ConfigClass.fields, ConfigClass.slots, ConfigClass.name]
  cases readFields raw [] fields with
  | error e => simp
  | ok values => cases instantiateSlots provenance raw slots <;> simp [eq_comm]

theorem instantiate_succeeds_iff (provenance : Provenance) (slot : Option String)
    (raw : Json.Object) (c : ConfigClass) :
    (∃ d, instantiate provenance slot raw c = .ok d) ↔
      (∀ spec ∈ c.fields, ∃ value?, readField raw spec = .ok value?) ∧
        ∀ slot ∈ c.slots, ∃ d?, readSlot provenance raw slot = .ok d? := by
  rw [← readFields_eq_ok_iff raw [], ← instantiateSlots_eq_ok_iff]
  simp only [instantiate_eq_ok_iff]
  constructor
  · intro hreads
    obtain ⟨d, values, nested, hvalues, hnested, -⟩ := hreads
    exact ⟨⟨values, hvalues⟩, ⟨nested, hnested⟩⟩
  · intro hreads
    obtain ⟨⟨values, hvalues⟩, ⟨nested, hnested⟩⟩ := hreads
    exact ⟨_, values, nested, hvalues, hnested, rfl⟩

end ModelRegistry.Config
