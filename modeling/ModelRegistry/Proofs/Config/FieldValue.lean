import ModelRegistry.Config.FieldValue
import ModelRegistry.Proofs.Json.Values

/-!
# ModelRegistry.Proofs.Config.FieldValue

Typed values written back as raw JSON. What was read at a type is read again at
that type from what it is written as: an integer that became a float stays the
float, and a value without a type stays what it is.
-/

namespace ModelRegistry

namespace FieldValue

open Number

/-- Items that are read one by one are read again from what they are written as. -/
theorem mapM_written {α : Type} {read : Json → Option α} {write : α → Json} {items : List Json}
    {values : List α}
    (hread : ∀ item value, read item = some value → read (write value) = some value)
    (h : items.mapM read = some values) : (values.map write).mapM read = some values := by
  induction items generalizing values with
  | nil =>
      obtain rfl : [] = values := by simpa using h
      rfl
  | cons item rest ih =>
      simp only [List.mapM_cons, Option.bind_eq_bind, Option.pure_def, Option.bind_eq_some_iff,
        Option.some.injEq] at h
      obtain ⟨value, hvalue, values, hvalues, rfl⟩ := h
      simp [List.mapM_cons, hread item value hvalue, ih hvalues]

/-- What was read at a type is read again from what it is written as. -/
theorem ofJson?_toJson {t : FieldType} {v : Json} {value : FieldValue} (hv : v.Proper)
    (h : ofJson? t v = some value) : ofJson? t value.toJson = some value := by
  have hint : ∀ item n, Json.int64? item = some n → Json.int64? (.int n) = some n := by
    intro item n hn
    exact Json.int64?_eq_some_iff.mpr ⟨rfl, (Json.int64?_eq_some_iff.mp hn).2⟩
  cases t with
  | bool =>
      obtain ⟨b, -, rfl⟩ := Option.map_eq_some_iff.mp h
      rfl
  | integer =>
      obtain ⟨n, hn, rfl⟩ := Option.map_eq_some_iff.mp h
      exact Option.map_eq_some_iff.mpr ⟨n, hint v n hn, rfl⟩
  | float =>
      obtain ⟨x, hx, rfl⟩ := Option.map_eq_some_iff.mp h
      have hfinite := hv.isFinite_of_float? hx
      rw [toJson, Json.float, if_pos hfinite]
      rfl
  | string =>
      obtain ⟨s, -, rfl⟩ := Option.map_eq_some_iff.mp h
      rfl
  | integerList =>
      obtain ⟨ns, hns, rfl⟩ := Option.map_eq_some_iff.mp h
      obtain ⟨items, -, hitems⟩ := Option.bind_eq_some_iff.mp hns
      exact Option.map_eq_some_iff.mpr ⟨ns, mapM_written hint hitems, rfl⟩
  | stringList =>
      obtain ⟨ss, hss, rfl⟩ := Option.map_eq_some_iff.mp h
      obtain ⟨items, -, hitems⟩ := Option.bind_eq_some_iff.mp hss
      exact Option.map_eq_some_iff.mpr ⟨ss, mapM_written (fun _ _ _ => rfl) hitems, rfl⟩
  | object =>
      obtain ⟨members, -, rfl⟩ := Option.map_eq_some_iff.mp h
      rfl
  | any =>
      obtain rfl := Option.some.inj h
      rfl

/-- Only null is written as null. -/
theorem toJson_eq_null {t : FieldType} {v : Json} {value : FieldValue} (hv : v.Proper)
    (h : ofJson? t v = some value) (hnull : value.toJson = .null) : v = .null := by
  cases t with
  | float =>
      obtain ⟨x, hx, rfl⟩ := Option.map_eq_some_iff.mp h
      rw [toJson, Json.float, if_pos (hv.isFinite_of_float? hx)] at hnull
      cases hnull
  | any =>
      obtain rfl := Option.some.inj h
      exact hnull
  | bool | integer | string | integerList | stringList | object =>
      obtain ⟨x, -, rfl⟩ := Option.map_eq_some_iff.mp h
      cases hnull

end FieldValue

end ModelRegistry
