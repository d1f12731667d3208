import ModelRegistry.Proofs.Checkpoint
import ModelRegistry.Proofs.Config.Reading

/-!
# ModelRegistry.Proofs.Checkpoint.RoundTrip

Checkpoints that are written and read again. `ofJson?_object_eq_some_iff` says what an
object reads as: its two typed keys, in which null counts as absent, and the rest of it
as it is. `lookup_written` says what stands under a key of the object that a checkpoint
is written as. Between them lies the round trip. It loses nothing but the difference
between null and absent under the typed keys; and a checkpoint that was not read but
built survives it unless a field was given the name of a typed key.
-/

namespace ModelRegistry

namespace Checkpoint

open Document Config

variable {c : Checkpoint} {object : Json.Object}

/-! ## Reading an object -/

/-- Under a typed key null says the same as nothing at all. -/
theorem withDefault?_ofJson {α : Type} {fallback : α} (read? : Document → Option α)
    (hnull : read? .null = some fallback) (key : String) :
    withDefault? fallback read? ((object.lookup key).map ofJson) =
      ((present? object key).map (read? ∘ ofJson)).getD (some fallback) := by
  rw [present?]
  cases object.lookup key with
  | none => rfl
  | some v =>
      cases v with
      | null => exact hnull
      | bool | number | string | array | object => rfl

theorem ne_null_of_present? {key : String} {v : Json} (h : present? object key = some v) :
    v ≠ .null :=
  ((present?_eq_some_iff object key v).mp h).2

theorem architectures?_ofJson {v : Json} (hv : v ≠ .null) {ids : List String} :
    architectures? (ofJson v) = some ids ↔ v = .strings ids := by
  rw [← list?_string?_ofJson]
  cases v with
  | null => contradiction
  | number x => cases x <;> rfl
  | bool | string | array | object => rfl

theorem modelType?_ofJson {v : Json} (hv : v ≠ .null) {modelType : Option String} :
    optional? Document.string? (ofJson v) = some modelType ↔
      some v = modelType.map Json.string := by
  rw [optional?_ofJson _ hv]
  cases modelType with
  | none => simp
  | some modelType => simp [string?_ofJson]

/-- **What an object reads as**: the typed keys, in which null counts as absent, and everything
else as it is. -/
theorem ofJson?_object_eq_some_iff (h : (Json.object object).Proper) :
    ofJson? (.object object) = some c ↔
      (present? object "architectures").getD (.strings []) = .strings c.architectures ∧
      present? object "model_type" = c.modelType.map Json.string ∧
      c.fields = object.filter fun member => member.1 ∉ typedKeys := by
  have hsorted : Members.Sorted object := h.sorted
  have hfields : membersToJson? ((ofMembers object).filter fun member => member.1 ∉ typedKeys) =
      some (object.filter fun member => member.1 ∉ typedKeys) := by
    refine membersToJson?_filter (fun key => decide (key ∉ typedKeys)) ?_
    exact membersToJson?_ofMembers fun member hmem =>
      toJson?_ofJson (h.of_lookup ((Members.mem_iff_lookup hsorted member.1 member.2).mp hmem))
  have hread : ofJson? (.object object) =
      (withDefault? [] architectures? ((object.lookup "architectures").map ofJson)).bind fun ids =>
        (withDefault? none (optional? Document.string?)
          ((object.lookup "model_type").map ofJson)).bind fun modelType =>
          some ⟨ids, modelType, object.filter fun member => member.1 ∉ typedKeys⟩ := by
    rw [ofJson?, ofJson, ofDocument?, fieldsByName?_ofMembers hsorted.nodup, hfields]
    simp only [typedKeys, List.map_cons, List.map_nil, Option.bind_eq_bind, Option.bind_some,
      Members.ofList_of_sorted (hsorted.filter _)]
    rfl
  rw [hread, withDefault?_ofJson architectures? rfl,
    withDefault?_ofJson (optional? Document.string?) rfl]
  have harchitectures : ∀ ids,
      ((present? object "architectures").map (architectures? ∘ ofJson)).getD (some []) = some ids ↔
        (present? object "architectures").getD (.strings []) = .strings ids := by
    intro ids
    cases hpresent : present? object "architectures" with
    | none => simp [Json.strings, eq_comm]
    | some v => simp [architectures?_ofJson (ne_null_of_present? hpresent)]
  have hmodelType : ∀ modelType,
      ((present? object "model_type").map (optional? Document.string? ∘ ofJson)).getD
        (some none) = some modelType ↔ present? object "model_type" = modelType.map Json.string := by
    intro modelType
    cases hpresent : present? object "model_type" with
    | none => cases modelType <;> simp
    | some v => simp [modelType?_ofJson (ne_null_of_present? hpresent)]
  simp only [Option.bind_eq_some_iff, Option.some.injEq, harchitectures, hmodelType]
  constructor
  · rintro ⟨ids, hids, modelType, hmodel, rfl⟩
    exact ⟨hids, hmodel, rfl⟩
  · rintro ⟨hids, hmodel, hrest⟩
    exact ⟨c.architectures, hids, c.modelType, hmodel, by rw [← hrest]⟩

/-! ## Writing a checkpoint -/

/-- The members that are written under the typed keys. -/
def typedMembers (c : Checkpoint) : Json.Object :=
  ("architectures", .strings c.architectures) ::
    (c.modelType.map fun modelType => ("model_type", Json.string modelType)).toList

theorem members_eq (c : Checkpoint) : c.members = c.typedMembers ++ c.fields := by
  obtain ⟨architectures, modelType, fields⟩ := c
  cases modelType <;> rfl

theorem nodup_keys_typedMembers (c : Checkpoint) : (Members.keys c.typedMembers).Nodup := by
  obtain ⟨architectures, modelType, fields⟩ := c
  cases modelType <;> simp [typedMembers, Members.keys]

theorem lookup_typedMembers (c : Checkpoint) (key : String) :
    c.typedMembers.lookup key =
      if key = "architectures" then some (.strings c.architectures)
      else if key = "model_type" then c.modelType.map Json.string
      else none := by
  obtain ⟨architectures, modelType, fields⟩ := c
  rw [typedMembers]
  by_cases harchitectures : key = "architectures"
  · subst harchitectures
    simp
  · rw [Members.lookup_cons_of_ne harchitectures, if_neg harchitectures]
    cases modelType with
    | none => simp
    | some modelType =>
        by_cases hmodel : key = "model_type"
        · subst hmodel
          simp
        · simp [Members.lookup_cons_of_ne hmodel, hmodel]

/-- **What a checkpoint is written as**: its typed keys, and over them its fields. -/
theorem lookup_written (h : Members.Sorted c.fields) (key : String) :
    (Members.ofList c.members).lookup key =
      (c.fields.lookup key).or (c.typedMembers.lookup key) := by
  rw [Members.lookup_ofList, members_eq, List.reverse_append, List.lookup_append,
    Members.lookup_reverse_of_nodup h.nodup,
    Members.lookup_reverse_of_nodup c.nodup_keys_typedMembers]

theorem proper_written (h : (Json.object c.fields).Proper) :
    (Json.object (Members.ofList c.members)).Proper := by
  refine .object (Members.sorted_ofList _) fun member hmem => ?_
  have hentry : member ∈ c.typedMembers ++ c.fields :=
    members_eq c ▸ Members.mem_of_mem_ofList hmem
  rcases List.mem_append.mp hentry with htyped | hfield
  · rw [typedMembers, List.mem_cons] at htyped
    rcases htyped with rfl | hmodel
    · refine .array fun item hitem => ?_
      obtain ⟨id, -, rfl⟩ := List.mem_map.mp hitem
      exact .string id
    · obtain ⟨modelType, -, rfl⟩ := Option.map_eq_some_iff.mp (Option.mem_toList.mp hmodel)
      exact .string modelType
  · exact h.of_lookup ((Members.mem_iff_lookup h.sorted member.1 member.2).mp hfield)

/-! ## The round trip -/

/-- No field has the name of a typed key. -/
def Untyped (c : Checkpoint) : Prop := ∀ key ∈ typedKeys, c.fields.lookup key = none

/-- What an object says under a key once it has been read and written: there is always a list of
architectures, and no null model type. -/
def asWritten (object : Json.Object) (key : String) : Option Json :=
  if key = "architectures" then some ((present? object key).getD (.strings []))
  else if key = "model_type" then present? object key
  else object.lookup key

/-- What was read has no field under a typed key. -/
theorem untyped_of_ofJson? (h : (Json.object object).Proper)
    (hread : ofJson? (.object object) = some c) : c.Untyped := by
  obtain ⟨-, -, hfields⟩ := (ofJson?_object_eq_some_iff h).mp hread
  intro key hkey
  rw [hfields, Members.lookup_filter fun name => decide (name ∉ typedKeys)]
  simp [hkey]

/-- A checkpoint is read from its own JSON value unless a field has the name of a typed key. -/
theorem ofJson?_toJson_iff (h : (Json.object c.fields).Proper) :
    ofJson? c.toJson = some c ↔ c.Untyped := by
  have hproper := proper_written h
  constructor
  · exact untyped_of_ofJson? hproper
  · intro huntyped
    have hlookup : ∀ key ∈ typedKeys,
        (Members.ofList c.members).lookup key = c.typedMembers.lookup key := by
      intro key hkey
      rw [lookup_written h.sorted, huntyped key hkey, Option.none_or]
    have harchitectures : (Members.ofList c.members).lookup "architectures" =
        some (.strings c.architectures) := by
      rw [hlookup _ (by decide), lookup_typedMembers, if_pos rfl]
    have hmodelType : (Members.ofList c.members).lookup "model_type" =
        c.modelType.map Json.string := by
      rw [hlookup _ (by decide), lookup_typedMembers, if_neg (by decide), if_pos rfl]
    refine (ofJson?_object_eq_some_iff hproper).mpr ⟨?_, ?_, ?_⟩
    · rw [present?, harchitectures]
      rfl
    · rw [present?, hmodelType]
      cases c.modelType <;> rfl
    · refine h.sorted.ext (hproper.sorted.filter _) fun key => ?_
      rw [Members.lookup_filter fun name => decide (name ∉ typedKeys), lookup_written h.sorted,
        lookup_typedMembers]
      by_cases hkey : key ∈ typedKeys
      · simp [hkey, huntyped key hkey]
      · have hneither : key ≠ "architectures" ∧ key ≠ "model_type" := by
          simpa [typedKeys] using hkey
        simp [hkey, hneither]

/-- What was read is written under every key as the object had it, up to null. -/
theorem lookup_written_of_ofJson? (h : (Json.object object).Proper)
    (hread : ofJson? (.object object) = some c) (key : String) :
    (Members.ofList c.members).lookup key = asWritten object key := by
  obtain ⟨harchitectures, hmodelType, hfields⟩ := (ofJson?_object_eq_some_iff h).mp hread
  have hsorted : Members.Sorted c.fields := hfields ▸ h.sorted.filter _
  rw [lookup_written hsorted, lookup_typedMembers, asWritten, hfields,
    Members.lookup_filter fun name => decide (name ∉ typedKeys), ← hmodelType, ← harchitectures]
  by_cases hfirst : key = "architectures"
  · subst hfirst
    rfl
  · by_cases hsecond : key = "model_type"
    · subst hsecond
      rfl
    · simp [typedKeys, hfirst, hsecond]

/-- **Checkpoints survive reading and writing**. What is read from an object is written as an
object that says the same under every key, but that the architectures are always there and a null
model type is not; it has no field under a typed key, and is read from what it is written as. A
checkpoint that was built is read from what it is written as exactly if it has no such field. -/
theorem survives_reading_and_writing :
    (∀ object c, (Json.object object).Proper → ofJson? (.object object) = some c →
      ∃ written, c.toJson = .object written ∧ (Json.object written).Proper ∧
        (∀ key, written.lookup key = asWritten object key) ∧ c.Untyped ∧
        ofJson? c.toJson = some c) ∧
    ∀ c : Checkpoint, (Json.object c.fields).Proper →
      (ofJson? c.toJson = some c ↔ c.Untyped) := by
  refine ⟨?_, fun c => ofJson?_toJson_iff⟩
  intro object c h hread
  have hfields : (Json.object c.fields).Proper := by
    rw [((ofJson?_object_eq_some_iff h).mp hread).2.2]
    cases h with
    | object hsorted hmembers =>
        exact .object (hsorted.filter _) fun member hmem =>
          hmembers member (List.mem_of_mem_filter hmem)
  have huntyped := untyped_of_ofJson? h hread
  exact ⟨_, rfl, proper_written hfields, lookup_written_of_ofJson? h hread, huntyped,
    (ofJson?_toJson_iff hfields).mpr huntyped⟩

/-- An object in which both typed keys and another key are null. -/
def nullsObject : Json.Object :=
  [("architectures", .null), ("hidden_size", .int 64), ("model_type", .null),
    ("rope_scaling", .null)]

theorem proper_nullsObject : (Json.object nullsObject).Proper := by
  refine .object (by unfold Members.Sorted; decide) ?_
  have hsize : (Json.int 64).Proper := .integer (by decide) (by decide)
  simp [nullsObject, hsize, Json.Proper.null]

/-- Of three nulls one becomes the empty list, one is dropped and one stays. A checkpoint that is
built with a field for its model type loses it when it is read again. -/
theorem nulls_are_written_apart :
    (∃ c written, ofJson? (.object nullsObject) = some c ∧ c.toJson = .object written ∧
      written.lookup "architectures" = some (.array []) ∧ written.lookup "model_type" = none ∧
      written.lookup "rope_scaling" = some .null ∧ ofJson? c.toJson = some c) ∧
    let built := (ofArchitectures ["LlamaForCausalLM"]).withField "model_type" (.string "llama")
    ofJson? built.toJson ≠ some built := by
  constructor
  · have hread : ofJson? (.object nullsObject) =
        some ⟨[], none, [("hidden_size", .int 64), ("rope_scaling", .null)]⟩ := rfl
    obtain ⟨written, hwritten, -, hlookup, -, hagain⟩ :=
      survives_reading_and_writing.1 nullsObject _ proper_nullsObject hread
    exact ⟨_, written, hread, hwritten, hlookup "architectures", hlookup "model_type",
      hlookup "rope_scaling", hagain⟩
  · intro built hagain
    have hfields : (Json.object built.fields).Proper := by
      refine .object (by unfold Members.Sorted; decide) ?_
      exact List.forall_mem_singleton.mpr (.string "llama")
    have huntyped := (survives_reading_and_writing.2 built hfields).mp hagain
    cases huntyped "model_type" (by decide)

end Checkpoint

end ModelRegistry
