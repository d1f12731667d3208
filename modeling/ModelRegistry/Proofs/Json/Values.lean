import ModelRegistry.Proofs.Json.Members
import ModelRegistry.Proofs.Number.Rounding

/-!
# ModelRegistry.Proofs.Json.Values

The values that a JSON text can write. The type `Json` has more: integers beyond
64 bits, floats that are not finite, and objects with keys out of order or given
twice. `Json.Proper` leaves these out; whatever is read from a text is proper
(`Json.proper_of_parse?`).
-/

namespace ModelRegistry

open Number

namespace Json

/-- A value that a JSON text can write. -/
inductive Proper : Json → Prop where
  | null : Proper .null
  | bool (b : Bool) : Proper (.bool b)
  | integer {n : Int} : -(signedBound : Int) ≤ n → n < UInt64.size → Proper (.number (.integer n))
  | float {x : Binary64} : x.isFinite → Proper (.number (.float x))
  | string (s : String) : Proper (.string s)
  | array {items : List Json} : (∀ item ∈ items, Proper item) → Proper (.array items)
  | object {members : Json.Object} : Members.Sorted members →
      (∀ member ∈ members, Proper member.2) → Proper (.object members)

theorem Proper.sorted {members : Json.Object} (h : Proper (.object members)) :
    Members.Sorted members := by
  cases h with
  | object hsorted _ => exact hsorted

/-- What stands under a key of a proper object is proper. -/
theorem Proper.of_lookup {members : Json.Object} (h : Proper (.object members)) {key : String}
    {v : Json} (hlookup : members.lookup key = some v) : Proper v := by
  cases h with
  | object hsorted hmembers =>
      exact hmembers (key, v) ((Members.mem_iff_lookup hsorted key v).mpr hlookup)

/-! ## What the readers of values take -/

theorem int64?_eq_some_iff {v : Json} {n : Int} :
    v.int64? = some n ↔ v = .int n ∧ IsSigned n := by
  cases v with
  | number x =>
      cases x with
      | float x => simp [int64?, int]
      | integer m =>
          rw [int64?, Option.ite_none_right_eq_some]
          constructor
          · intro h
            obtain ⟨hm, hn⟩ := h
            obtain rfl := Option.some.inj hn
            exact ⟨rfl, hm⟩
          · intro h
            obtain ⟨hn, hm⟩ := h
            cases hn
            exact ⟨hm, rfl⟩
  | null | bool | string | array | object => simp [int64?, int]

/-- The number of a proper value is finite: integers of 64 bits are far from infinity. -/
theorem Proper.isFinite_of_float? {v : Json} (hv : Proper v) {x : Binary64}
    (h : v.float? = some x) : x.isFinite := by
  cases hv with
  | @integer n hlow hhigh =>
      obtain rfl := Option.some.inj h
      have hbits : n.natAbs < 2 ^ 64 := by
        have hsigned : (signedBound : Int) = 2 ^ 63 := rfl
        have hsize : (UInt64.size : Int) = 2 ^ 64 := rfl
        omega
      exact Binary64.isFinite_ofInt (by decide) hbits
  | float hfinite =>
      obtain rfl := Option.some.inj h
      exact hfinite
  | null | bool | string | array | object => simp [float?] at h

end Json

end ModelRegistry
