import ModelRegistry.Proofs.Checkpoint
import ModelRegistry.Proofs.Config.Acceptance
import ModelRegistry.Proofs.Config.Conformance
import ModelRegistry.Proofs.Resolution

/-!
# ModelRegistry.Proofs.Visibility

Which keys of a checkpoint's text the configuration classes see. The reader sets two
keys apart, `architectures` and `model_type`; a class is read against everything
else. So a field under any other name gets the value that the text has there, and is
never reported as missing, while a class that declares one of the two finds nothing
under it.
-/

namespace ModelRegistry

namespace Config

variable {provenance : Provenance} {slot : Option String} {raw : Json.Object} {c : ConfigClass}

/-- The empty path leads to the object itself. -/
theorem Reaches.eq_of_nil {child : ConfigClass} {object : Json.Object} {path : List String}
    (h : Reaches c raw path child object) (hpath : path = []) : object = raw := by
  induction h with
  | here => rfl
  | flattened _ _ _ ih => exact ih hpath
  | subtree => contradiction

/-- What the object holds under a key is not reported as a missing field of that object. -/
theorem not_missing_of_holds (hc : c.checkWellFormed = .ok ()) {key : String} {v : Json}
    (hholds : Holds raw key v) :
    instantiate provenance slot raw c ≠ .error ⟨[], key, .missingField⟩ := by
  intro h
  have hfirst := (instantiate_eq_error_iff_firstViolation hc provenance slot raw _).mp h
  obtain ⟨child, object, hreach, hmisfit⟩ :
      ∃ child object, Reaches c raw [] child object ∧ Misfit child object key .missingField :=
    hfirst.reaches
  obtain rfl := hreach.eq_of_nil rfl
  cases hmisfit with
  | field _ hfield =>
      cases hfield with
      | missing _ _ hnone => exact hnone v hholds
  | slot _ _ hslot => cases hslot

/-- A field that reads what the object holds under its name has that value. -/
theorem get?_of_holds (hc : c.checkWellFormed = .ok ()) {d : Descriptor}
    (h : instantiate provenance slot raw c = .ok d) {spec : FieldSpec} (hspec : spec ∈ c.fields)
    {v : Json} (hholds : Holds raw spec.name v) :
    d.get? spec.name = FieldValue.ofJson? spec.type v := by
  cases conforms_of_instantiate hc h with
  | intro _ _ values => exact values spec hspec v (.held hholds)

end Config

namespace Resolver

variable {r : Resolver} {files : Files} {c : Checkpoint}

section Chosen

variable {id : String} {strategy : Strategy} {chosen : Shared ConfigClass}
  {attempts : List Attempt}
  (hselection : r.selection? files c = some (id, ⟨some (strategy, chosen), attempts⟩))

include hselection

theorem instantiate_of_resolve_eq_ok {d : Descriptor} (h : r.resolve files c = .ok d) :
    Config.instantiate ⟨id, strategy⟩ none c.fields chosen.value = .ok d := by
  rw [resolve_of_selection? hselection, instantiate_of_chosen] at h
  split at h
  · next config hconfig => rw [hconfig, Except.ok.inj h]
  · contradiction

/-- Where a class was chosen, the violation in an error is the one that the class found. -/
theorem instantiate_of_resolve_eq_error {e : ResolutionError} (h : r.resolve files c = .error e)
    {className : String} {v : Violation} (hfault : e.fault = .invalidConfig className v) :
    Config.instantiate ⟨id, strategy⟩ none c.fields chosen.value = .error v := by
  rw [resolve_of_selection? hselection, instantiate_of_chosen] at h
  split at h
  · contradiction
  · next w hw =>
      obtain rfl := Except.error.inj h
      obtain ⟨-, rfl⟩ := ResolutionFault.invalidConfig.inj hfault
      exact hw

end Chosen

/-! ## Main theorem -/

/-- **Every untyped key is visible**: if the text of a checkpoint has a value under the name of a
field that the chosen class declares, other than `architectures` and `model_type`, and the value
has the type of the field, then the field is not reported as missing, and in a resolved
configuration it has that value. -/
theorem untyped_keys_are_visible (r : Resolver) (files : Files) {doc : Document}
    {object : Json.Object} (hobject : doc.toJson? = some (.object object))
    (hread : Checkpoint.ofDocument? doc = some c)
    {id : String} {strategy : Strategy} {chosen : Shared ConfigClass} {attempts : List Attempt}
    (hselection : r.selection? files c = some (id, ⟨some (strategy, chosen), attempts⟩))
    (hc : chosen.value.checkWellFormed = .ok ()) {spec : FieldSpec}
    (hspec : spec ∈ chosen.value.fields) (huntyped : spec.name ∉ Checkpoint.typedKeys) {v : Json}
    {value : FieldValue} (hholds : Config.Holds object spec.name v)
    (htype : FieldValue.ofJson? spec.type v = some value) :
    (∀ e, r.resolve files c = .error e → ∀ className,
      e.fault ≠ .invalidConfig className ⟨[], spec.name, .missingField⟩) ∧
    ∀ d, r.resolve files c = .ok d → d.get? spec.name = some value := by
  have hvisible : Config.Holds c.fields spec.name v := by
    obtain ⟨object', hobject', hlookup⟩ := Checkpoint.lookup_fields_of_ofDocument? hread
    obtain rfl := Json.object.inj (Option.some.inj (hobject.symm.trans hobject'))
    exact ⟨by rw [hlookup, if_neg huntyped, hholds.1], hholds.2⟩
  constructor
  · intro e he className hfault
    exact Config.not_missing_of_holds hc hvisible
      (instantiate_of_resolve_eq_error hselection he hfault)
  · intro d hd
    rw [Config.get?_of_holds hc (instantiate_of_resolve_eq_ok hselection hd) hspec hvisible, htype]

/-- An object with both typed keys and another one. -/
def sizedObject : Json.Object :=
  [("architectures", .strings ["SizedForCausalLM"]), ("hidden_size", .int 64),
    ("model_type", .string "sized")]

/-- A resolver that knows one class. -/
def mappedTo (c : ConfigClass) : Resolver where
  registry := .empty
  mapping := .ofList [("SizedForCausalLM", c)]
  source := .empty

/-- The untyped key is visible to a class that declares it. -/
theorem hidden_size_is_visible :
    let sized := ConfigClass.mk "SizedConfig" [] [.mandatory "hidden_size" .integer] []
    ∃ c d, Checkpoint.ofDocument? (.ofJson (.object sizedObject)) = some c ∧
      (mappedTo sized).resolve .empty c = .ok d ∧ d.get? "hidden_size" = some (.integer 64) := by
  intro sized
  have hobject : (Document.ofJson (.object sizedObject)).toJson? = some (.object sizedObject) := rfl
  have hspec : FieldSpec.mandatory "hidden_size" .integer ∈ sized.fields := List.mem_cons_self
  have hholds : Config.Holds sizedObject "hidden_size" (.int 64) := ⟨rfl, by decide⟩
  refine ⟨_, _, rfl, rfl, ?_⟩
  exact (untyped_keys_are_visible (mappedTo sized) .empty hobject rfl rfl rfl hspec (by decide)
    hholds rfl).2 _ rfl

/-- The typed key is not: a class that declares `model_type` does not find it in an object that
has it. -/
theorem model_type_is_hidden :
    let spec := FieldSpec.mandatory "model_type" .string
    let typed := ConfigClass.mk "TypedConfig" [] [spec] []
    let doc := Document.ofJson (.object sizedObject)
    ∃ c chosen attempts e, doc.toJson? = some (.object sizedObject) ∧
      Checkpoint.ofDocument? doc = some c ∧
      (mappedTo typed).selection? .empty c =
        some ("SizedForCausalLM", ⟨some (.explicitMapping, chosen), attempts⟩) ∧
      chosen.value.checkWellFormed = .ok () ∧ spec ∈ chosen.value.fields ∧
      Config.Holds sizedObject spec.name (.string "sized") ∧
      FieldValue.ofJson? spec.type (.string "sized") = some (.string "sized") ∧
      (mappedTo typed).resolve .empty c = .error e ∧
      e.fault = .invalidConfig "TypedConfig" ⟨[], spec.name, .missingField⟩ := by
  intro spec typed doc
  exact ⟨_, _, _, _, rfl, rfl, rfl, rfl, List.mem_cons_self, ⟨rfl, by decide⟩, rfl, rfl, rfl⟩

end Resolver

end ModelRegistry
