import Mathlib.Data.List.Nodup
import ModelRegistry.Table

/-!
# ModelRegistry.Proofs.Table

Tables of shared objects. Where each object got the size of the table as its
serial number when it was put under a new key, the table is `Numbered`: no key
comes twice, and the serial numbers tell the objects apart.
-/

namespace ModelRegistry

namespace Table

variable {κ α : Type} {key other : κ}

theorem not_mem_keys_of_lookup [BEq κ] [LawfulBEq κ] {t : Table κ α}
    (h : t.lookup key = none) : key ∉ t.map (·.1) := by
  intro hmem
  obtain ⟨entry, hentry, rfl⟩ := List.mem_map.mp hmem
  simpa using List.lookup_eq_none_iff.mp h entry hentry

theorem mem_of_lookup [BEq κ] [LawfulBEq κ] {t : Table κ α} {x : α}
    (h : t.lookup key = some x) : (key, x) ∈ t := by
  obtain ⟨before, after, rfl, -⟩ := List.lookup_eq_some_iff.mp h
  simp

/-- Under a new key a table puts a value in front. -/
theorem put_of_not_mem [DecidableEq κ] {t : Table κ α} (h : key ∉ t.map (·.1)) (x : α) :
    t.put key x = (key, x) :: t := by
  rw [put, erase, List.filter_eq_self.mpr]
  intro entry hentry
  have hne : entry.1 ≠ key := fun hsame => h (hsame ▸ List.mem_map.mpr ⟨entry, hentry, rfl⟩)
  simpa using hne

/-- A value under a new key hides nothing. -/
theorem lookup_put_of_new [BEq κ] [LawfulBEq κ] [DecidableEq κ] {t : Table κ α}
    (hnew : t.lookup key = none) (x : α) {y : α} (h : t.lookup other = some y) :
    (t.put key x).lookup other = some y := by
  have hne : (other == key) = false := by
    rw [beq_eq_false_iff_ne]
    rintro rfl
    rw [hnew] at h
    cases h
  rw [put_of_not_mem (not_mem_keys_of_lookup hnew), List.lookup_cons, hne, h]

/-- Dropping values leaves the others where they are, if no key comes twice. -/
theorem lookup_filter_of_nodup [BEq κ] [LawfulBEq κ] {t : Table κ α} (h : (t.map (·.1)).Nodup)
    (keep : α → Bool) (key : κ) :
    (t.filter fun entry => keep entry.2).lookup key = (t.lookup key).filter keep := by
  induction t with
  | nil => rfl
  | cons entry rest ih =>
      obtain ⟨k, x⟩ := entry
      rw [List.map_cons, List.nodup_cons] at h
      have hrest := ih h.2
      by_cases hkey : key = k
      · subst hkey
        have hnone : rest.lookup key = none := by
          rw [List.lookup_eq_none_iff]
          intro other hother
          rw [bne_iff_ne]
          rintro rfl
          exact h.1 (List.mem_map.mpr ⟨other, hother, rfl⟩)
        rw [hnone] at hrest
        by_cases hkeep : keep x
        · simp [hkeep, Option.filter]
        · simp [hkeep, hrest, Option.filter]
      · have hne : (key == k) = false := beq_eq_false_iff_ne.mpr hkey
        by_cases hkeep : keep x
        · simp [hkeep, List.lookup_cons, hne, hrest]
        · simp [hkeep, List.lookup_cons, hne, hrest]

/-- No key comes twice, nor does the serial number of an object; the next object gets the size of
the table as its serial number. -/
structure Numbered (t : Table κ (Shared α)) : Prop where
  keys : (t.map (·.1)).Nodup
  serials : (t.map (·.2.serial)).Nodup
  below : ∀ entry ∈ t, entry.2.serial < t.length

namespace Numbered

variable {t : Table κ (Shared α)}

theorem nil : Numbered ([] : Table κ (Shared α)) :=
  ⟨List.nodup_nil, List.nodup_nil, by simp⟩

theorem put [DecidableEq κ] (h : t.Numbered) (hkey : key ∉ t.map (·.1)) (value : α) :
    (t.put key ⟨t.length, value⟩).Numbered := by
  rw [put_of_not_mem hkey]
  refine ⟨?_, ?_, ?_⟩
  · rw [List.map_cons]
    exact h.keys.cons hkey
  · rw [List.map_cons]
    refine h.serials.cons ?_
    intro hmem
    obtain ⟨entry, hentry, hserial⟩ := List.mem_map.mp hmem
    exact absurd hserial (Nat.ne_of_lt (h.below entry hentry))
  · rw [List.forall_mem_cons, List.length_cons]
    exact ⟨Nat.lt_succ_self _, fun entry hentry => Nat.lt_succ_of_lt (h.below entry hentry)⟩

/-- Objects of the same serial number are under the same key. -/
theorem key_eq (h : t.Numbered) {x y : Shared α} (hx : (key, x) ∈ t) (hy : (other, y) ∈ t)
    (hserial : x.serial = y.serial) : key = other :=
  (Prod.mk.inj (List.inj_on_of_nodup_map h.serials hx hy hserial)).1

end Numbered

end Table

end ModelRegistry
