import ModelRegistry.Checkpoint
import ModelRegistry.Proofs.Document
import ModelRegistry.Proofs.Json.Reader

/-!
# ModelRegistry.Proofs.Checkpoint

What a checkpoint keeps of the text it is read from. `ReadFrom` is the inversion of
the reader: each typed key is given at most once, and everything else has a value.
The typed keys always have a value too, since only lists of strings, strings and
null are read under them; so the text as a whole writes an object, and
`lookup_fields_of_ofDocument?` says what of it is left for configuration classes:
every key but the typed ones. What is left of a JSON text is proper
(`proper_fields_of_parse?`), as the theorems about classes ask of it.
-/

namespace ModelRegistry

namespace Checkpoint

open Document

variable {c : Checkpoint}

/-- What the reader finds in the members of a text. -/
structure ReadFrom (members : List (String × Document)) (c : Checkpoint) : Prop where
  architectures : ∃ d?, GivenAs members "architectures" d? ∧
    withDefault? [] architectures? d? = some c.architectures
  modelType : ∃ d?, GivenAs members "model_type" d? ∧
    withDefault? none (optional? Document.string?) d? = some c.modelType
  fields : ∃ values, c.fields = Members.ofList values ∧
    membersToJson? (members.filter fun member => member.1 ∉ typedKeys) = some values

theorem readFrom_of_ofDocument? {doc : Document} (h : ofDocument? doc = some c) :
    ∃ members, doc = .object members ∧ ReadFrom members c := by
  cases doc with
  | object members =>
      refine ⟨members, rfl, ?_⟩
      rw [ofDocument?] at h
      simp only [Option.bind_eq_bind, Option.bind_eq_some_iff] at h
      obtain ⟨given, hgiven, h⟩ := h
      obtain ⟨architectures, modelType, harch, hmodel, rfl⟩ :
          ∃ d? e?, GivenAs members "architectures" d? ∧ GivenAs members "model_type" e? ∧
            given = [d?, e?] := by
        cases givenAs_of_fieldsByName? hgiven with
        | cons harch hrest =>
            cases hrest with
            | cons hmodel hrest =>
                cases hrest
                exact ⟨_, _, harch, hmodel, rfl⟩
      simp only [Option.bind_eq_some_iff] at h
      obtain ⟨ids, hids, modelType?, hmodelType, values, hvalues, hc⟩ := h
      obtain rfl := Option.some.inj hc
      exact ⟨⟨architectures, harch, hids⟩, ⟨modelType, hmodel, hmodelType⟩, ⟨values, rfl, hvalues⟩⟩
  | null | bool | integer | float | string | array | unreadable => contradiction

/-! ## Typed keys -/

theorem exists_toJson?_of_architectures? {d : Document} {ids : List String}
    (h : architectures? d = some ids) : ∃ v, d.toJson? = some v := by
  cases d with
  | null => exact ⟨_, rfl⟩
  | array items =>
      obtain ⟨values, hvalues⟩ := exists_itemsToJson?_of_strings h
      exact ⟨.array values, by rw [toJson?, hvalues]; rfl⟩
  | bool | integer | float | string | object | unreadable => contradiction

theorem exists_toJson?_of_modelType? {d : Document} {modelType : Option String}
    (h : optional? Document.string? d = some modelType) : ∃ v, d.toJson? = some v := by
  cases d with
  | null | string => exact ⟨_, rfl⟩
  | bool | integer | float | array | object | unreadable => contradiction

/-- Every member has a value: a typed one since it was read, and any other since it is kept. -/
theorem ReadFrom.exists_toJson? {members : List (String × Document)} (h : ReadFrom members c)
    {member : String × Document} (hmem : member ∈ members) : ∃ v, member.2.toJson? = some v := by
  obtain ⟨key, d⟩ := member
  by_cases hkey : key ∈ typedKeys
  · rw [typedKeys, List.mem_pair] at hkey
    obtain rfl | rfl := hkey
    · obtain ⟨d?, hgiven, hread⟩ := h.architectures
      rw [hgiven.eq_some hmem] at hread
      exact exists_toJson?_of_architectures? hread
    · obtain ⟨d?, hgiven, hread⟩ := h.modelType
      rw [hgiven.eq_some hmem] at hread
      exact exists_toJson?_of_modelType? hread
  · obtain ⟨values, -, hvalues⟩ := h.fields
    exact exists_toJson?_of_mem hvalues (List.mem_filter.mpr ⟨hmem, by simpa using hkey⟩)

/-! ## Main theorem -/

/-- **What a checkpoint keeps**: the text that it is read from writes an object, and its untyped
keys are those of the object other than the typed ones, with the values they have there. -/
theorem lookup_fields_of_ofDocument? {doc : Document} (h : ofDocument? doc = some c) :
    ∃ object, doc.toJson? = some (.object object) ∧
      ∀ key, c.fields.lookup key = if key ∈ typedKeys then none else object.lookup key := by
  obtain ⟨members, rfl, hread⟩ := readFrom_of_ofDocument? h
  obtain ⟨all, hall⟩ := exists_membersToJson? fun _ => hread.exists_toJson?
  refine ⟨Members.ofList all, by rw [toJson?, hall]; rfl, fun key => ?_⟩
  obtain ⟨values, hfields, hvalues⟩ := hread.fields
  have hkept := membersToJson?_filter (fun name => decide (name ∉ typedKeys)) hall
  obtain rfl := Option.some.inj (hvalues.symm.trans hkept)
  rw [hfields, Members.lookup_ofList, Members.lookup_ofList, ← List.filter_reverse,
    Members.lookup_filter fun name => decide (name ∉ typedKeys)]
  by_cases hkey : key ∈ typedKeys <;> simp [hkey]

/-- The untyped keys of a checkpoint that is read from text have the values of JSON text. -/
theorem proper_fields_of_parse? {text : String} (h : parse? text = some c) :
    (Json.object c.fields).Proper := by
  obtain ⟨doc, hdoc, hread⟩ := Option.bind_eq_some_iff.mp h
  obtain ⟨members, rfl, hfrom⟩ := readFrom_of_ofDocument? hread
  obtain ⟨values, hfields, hvalues⟩ := hfrom.fields
  have hkept : (Document.object (members.filter fun member => member.1 ∉ typedKeys)).Proper := by
    cases Json.Reader.proper_of_document? hdoc with
    | object hproper =>
        exact .object fun member hmem => hproper member (List.mem_of_mem_filter hmem)
  rw [hfields]
  exact hkept.toJson? (by rw [toJson?, hvalues]; rfl)

end Checkpoint

end ModelRegistry
