import ModelRegistry.Proofs.Config.Acceptance
import ModelRegistry.Proofs.Json.Values

/-!
# ModelRegistry.Proofs.Config.Diagnosis

What a type mismatch says of the value that was found. Most field types are named for
kinds of raw values (`FieldType.kinds`), and a mismatch should name a kind that is none
of these. Whether a value is taken and how its kind is named are two separate readings
of it, and they part at one place: an integer of more than 64 bits with a sign is of the
kind integer, and no value of the type integer (`ofJson?_eq_none_iff_of_kind`). There,
and only there, the diagnosis contradicts itself.
-/

namespace ModelRegistry

open Number

/-- The value is an integer that does not fit 64 bits with a sign. -/
def Json.BeyondWords (v : Json) : Prop := ∃ n, v = .int n ∧ ¬ IsSigned n

/-- The kinds of raw values for which the type is named. A list type is named for its items, so
that its name promises nothing of arrays in general. -/
def FieldType.kinds : FieldType → List Json.Kind
  | .bool => [.bool]
  | .integer => [.integer]
  | .float => [.float, .integer]
  | .string => [.string]
  | .object => [.object]
  | .integerList | .stringList => []
  | .any => [.null, .bool, .integer, .float, .string, .array, .object]

/-- A type shares its name only with kinds for which it is named. -/
theorem FieldType.mem_kinds_of_name {t : FieldType} {kind : Json.Kind} (h : kind.name = t.name) :
    kind ∈ t.kinds := by
  cases t <;> cases kind <;> revert h <;> decide

theorem Json.beyondWords_integer_iff (n : Int) :
    (Json.number (.integer n)).BeyondWords ↔ ¬ IsSigned n := by
  simp [BeyondWords, Json.int]

/-- **Where the two readings part**: of the values whose kind the type is named for, it takes all
but the integers that are too large. -/
theorem FieldValue.ofJson?_eq_none_iff_of_kind {t : FieldType} {v : Json} (h : v.kind ∈ t.kinds) :
    ofJson? t v = none ↔ t = .integer ∧ v.BeyondWords := by
  cases v with
  | number x =>
      cases x with
      | integer n =>
          rw [Json.beyondWords_integer_iff]
          cases t <;> simp [FieldType.kinds, Json.kind, ofJson?, Json.int64?, Json.float?] at h ⊢
      | float x => cases t <;> simp [FieldType.kinds, Json.kind, ofJson?, Json.float?] at h ⊢
  | null | array items => cases t <;> simp [FieldType.kinds, Json.kind, ofJson?] at h ⊢
  | bool b => cases t <;> simp [FieldType.kinds, Json.kind, ofJson?, Json.bool?] at h ⊢
  | string s => cases t <;> simp [FieldType.kinds, Json.kind, ofJson?, Json.string?] at h ⊢
  | object members => cases t <;> simp [FieldType.kinds, Json.kind, ofJson?, Json.object?] at h ⊢

namespace Config

variable {provenance : Provenance} {slot : Option String} {raw : Json.Object} {c : ConfigClass}

/-- A mismatch is found in a field, and names the kind of the value that the field could not
take. -/
theorem Misfit.mismatch {name : String} {expected : FieldType} {found : Found}
    (h : Misfit c raw name (.typeMismatch expected found)) :
    ∃ spec ∈ c.fields, spec.name = name ∧ spec.type = expected ∧
      ∃ value, Holds raw name value ∧ found = .value value.kind ∧
        FieldValue.ofJson? expected value = none := by
  generalize hkind : ViolationKind.typeMismatch expected found = kind at h
  cases h with
  | field hspec hfield =>
      cases hfield with
      | missing => cases hkind
      | mismatch hholds htype =>
          obtain ⟨rfl, rfl⟩ := ViolationKind.typeMismatch.inj hkind
          exact ⟨_, hspec, rfl, rfl, _, hholds, rfl, htype⟩
  | slot _ _ hslot =>
      cases hslot <;> cases hkind

/-- **What a mismatch says**: the value at fault is of a kind for which the expected type is not
named, and so what was found has another name than what was expected. The one exception is an
integer of more than 64 bits with a sign where an integer is expected: there both are called
integer. -/
theorem mismatch_contradicts_iff_beyond_words (hc : c.checkWellFormed = .ok ())
    (provenance : Provenance) (slot : Option String) (raw : Json.Object) {v : Violation}
    (h : instantiate provenance slot raw c = .error v) {expected : FieldType} {found : Found}
    (hkind : v.kind = .typeMismatch expected found) :
    ∃ child object spec value, Reaches c raw v.slots child object ∧
      (spec ∈ child.fields ∧ spec.name = v.name ∧ spec.type = expected) ∧
      Holds object v.name value ∧ found = .value value.kind ∧
      (value.kind ∈ expected.kinds ↔ expected = .integer ∧ value.BeyondWords) ∧
      (¬ (expected = .integer ∧ value.BeyondWords) → found.name ≠ expected.name ∧
        (expected = .float → found ≠ .value .float ∧ found ≠ .value .integer)) := by
  have hfirst := (instantiate_eq_error_iff_firstViolation hc provenance slot raw v).mp h
  obtain ⟨child, object, hreach, hmisfit⟩ := hfirst.reaches
  rw [hkind] at hmisfit
  obtain ⟨spec, hspec, hname, htype, value, hholds, rfl, hnone⟩ := hmisfit.mismatch
  have hcontradicts :
      value.kind ∈ expected.kinds ↔ expected = .integer ∧ value.BeyondWords := by
    constructor
    · intro hmem
      exact (FieldValue.ofJson?_eq_none_iff_of_kind hmem).mp hnone
    · intro hbeyond
      obtain ⟨rfl, n, rfl, -⟩ := hbeyond
      exact List.mem_singleton_self _
  refine ⟨child, object, spec, value, hreach, ⟨hspec, hname, htype⟩, hholds, rfl, hcontradicts, ?_⟩
  intro hfits
  have hother : value.kind ∉ expected.kinds := fun hmem => hfits (hcontradicts.mp hmem)
  refine ⟨fun hsame => hother (FieldType.mem_kinds_of_name hsame), ?_⟩
  rintro rfl
  simpa [FieldType.kinds] using hother

/-- The vision model of the example is too deep by a string, and the diagnosis says so. -/
theorem deep_string_is_no_integer :
    ConfigClass.split.checkWellFormed = .ok () ∧
      instantiate ⟨"Split", .explicitMapping⟩ none
          (ConfigClass.splitObject (.string "deep")) .split =
        .error ⟨["vision_config"], "depth", .typeMismatch .integer (.value .string)⟩ ∧
      (Found.value .string).name ≠ FieldType.integer.name := by
  have hwell : ConfigClass.split.checkWellFormed = .ok () := rfl
  have herror : instantiate ⟨"Split", .explicitMapping⟩ none
      (ConfigClass.splitObject (.string "deep")) .split =
        .error ⟨["vision_config"], "depth", .typeMismatch .integer (.value .string)⟩ := rfl
  obtain ⟨child, object, spec, value, -, -, -, hfound, -, hnames⟩ :=
    mismatch_contradicts_iff_beyond_words hwell _ none _ herror rfl
  refine ⟨hwell, herror, (hnames ?_).1⟩
  rintro ⟨-, n, rfl, -⟩
  cases hfound

/-- A depth of more than 64 bits is an integer that is found where an integer is expected. -/
theorem deep_integer_is_no_integer :
    ConfigClass.split.checkWellFormed = .ok () ∧
      instantiate ⟨"Split", .explicitMapping⟩ none
          (ConfigClass.splitObject (.int 9223372036854775808)) .split =
        .error ⟨["vision_config"], "depth", .typeMismatch .integer (.value .integer)⟩ ∧
      (Found.value .integer).name = FieldType.integer.name :=
  ⟨rfl, rfl, rfl⟩

end Config

end ModelRegistry
