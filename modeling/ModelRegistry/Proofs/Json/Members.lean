import Mathlib.Data.List.Nodup
import Mathlib.Data.List.Perm.Basic
import Mathlib.Data.String.Basic
import ModelRegistry.Json.Basic

/-!
# ModelRegistry.Proofs.Json.Members

The members of an object as a finite map. Sorted members have each key once, and
are equal as soon as they hold the same value under every key; `Members.insert`
and `Members.ofList` keep and make them so.
-/

namespace ModelRegistry

namespace Members

variable {α : Type} {a b : Members α}

/-! ## Keys -/

theorem lookup_cons_of_ne {name key : String} (h : name ≠ key) (value : α) (rest : Members α) :
    List.lookup name ((key, value) :: rest) = rest.lookup name := by
  have hbeq : (name == key) = false := by simpa using h
  rw [List.lookup_cons, hbeq]

theorem keys_map {β : Type} (f : α → β) (members : Members α) :
    keys (members.map fun member => (member.1, f member.2)) = keys members := by
  rw [keys, keys, List.map_map]
  rfl

theorem mem_keys_iff (members : Members α) (name : String) :
    name ∈ keys members ↔ (members.lookup name).isSome := by
  induction members with
  | nil => simp [keys]
  | cons entry rest ih =>
      obtain ⟨key, value⟩ := entry
      rw [keys] at ih ⊢
      rw [List.map_cons, List.mem_cons, ih]
      by_cases h : name = key
      · simp [h]
      · rw [lookup_cons_of_ne h]
        simp [h]

theorem lookup_eq_none_of_not_mem {name : String} (h : name ∉ keys a) : a.lookup name = none := by
  rw [mem_keys_iff, Option.not_isSome_iff_eq_none] at h
  exact h

/-- Members that are left out by their key are missing under that key and no other. -/
theorem lookup_filter (keep : String → Bool) (members : Members α) (name : String) :
    (members.filter fun member => keep member.1).lookup name =
      if keep name then members.lookup name else none := by
  induction members with
  | nil => simp
  | cons entry rest ih =>
      obtain ⟨key, value⟩ := entry
      rw [List.filter_cons]
      by_cases hname : name = key
      · subst hname
        by_cases hkeep : keep name
        · simp [hkeep]
        · rw [if_neg hkeep, ih, if_neg hkeep, if_neg hkeep]
      · split
        · rw [lookup_cons_of_ne hname, ih, lookup_cons_of_ne hname]
        · rw [ih, lookup_cons_of_ne hname]

theorem lookup_map {β : Type} (f : α → β) (members : Members α) (name : String) :
    (members.map fun member => (member.1, f member.2)).lookup name =
      (members.lookup name).map f := by
  induction members with
  | nil => rfl
  | cons entry rest ih =>
      obtain ⟨key, value⟩ := entry
      rw [List.map_cons]
      by_cases hname : name = key
      · subst hname
        simp
      · rw [lookup_cons_of_ne hname, ih, lookup_cons_of_ne hname]

/-- Members that are left out by their key may as well be inserted first. -/
theorem filter_insert (keep : String → Bool) {key : String} (hkey : keep key = false) (value : α)
    (members : Members α) :
    (insert key value members).filter (fun member => keep member.1) =
      members.filter fun member => keep member.1 := by
  induction members with
  | nil => simp [insert, hkey]
  | cons entry rest ih =>
      obtain ⟨k, v⟩ := entry
      rw [insert]
      split
      · next heq =>
          subst heq
          simp [hkey]
      · split
        · simp [hkey]
        · rw [List.filter_cons, List.filter_cons, ih]

/-! ## The last of several values -/

theorem lookup_foldl_insert (entries : List (String × α)) (done : Members α) (name : String) :
    (entries.foldl (fun members entry => insert entry.1 entry.2 members) done).lookup name =
      (entries.reverse.lookup name).or (done.lookup name) := by
  induction entries generalizing done with
  | nil => rfl
  | cons entry rest ih =>
      obtain ⟨key, value⟩ := entry
      rw [List.foldl_cons, ih, lookup_insert, List.reverse_cons, List.lookup_append,
        Option.or_assoc]
      by_cases h : name = key
      · simp [h]
      · rw [if_neg h, lookup_cons_of_ne h, List.lookup_nil, Option.none_or]

/-- Of several values under a key the last one counts. -/
theorem lookup_ofList (entries : List (String × α)) (name : String) :
    (ofList entries).lookup name = entries.reverse.lookup name := by
  rw [ofList, lookup_foldl_insert, List.lookup_nil, Option.or_none]

/-- A key that comes once has the same value from either end. -/
theorem lookup_reverse_of_nodup (h : (keys a).Nodup) (name : String) :
    a.reverse.lookup name = a.lookup name := by
  induction a with
  | nil => rfl
  | cons entry rest ih =>
      obtain ⟨key, value⟩ := entry
      rw [keys, List.map_cons, List.nodup_cons] at h
      rw [List.reverse_cons, List.lookup_append, ih h.2]
      by_cases hname : name = key
      · subst hname
        have hrest : rest.lookup name = none := lookup_eq_none_of_not_mem h.1
        simp [hrest]
      · rw [lookup_cons_of_ne hname, lookup_cons_of_ne hname, List.lookup_nil, Option.or_none]

/-! ## Sorted members -/

/-- The keys are in order, and so each comes once. -/
def Sorted (members : Members α) : Prop := (keys members).Pairwise (· < ·)

theorem sorted_nil : Sorted ([] : Members α) := List.Pairwise.nil

theorem Sorted.nodup (h : Sorted a) : (keys a).Nodup :=
  List.Pairwise.imp ne_of_lt h

theorem mem_iff_lookup (h : Sorted a) (key : String) (value : α) :
    (key, value) ∈ a ↔ a.lookup key = some value := by
  induction a with
  | nil => simp
  | cons entry rest ih =>
      obtain ⟨k, v⟩ := entry
      rw [Sorted, keys, List.map_cons, List.pairwise_cons] at h
      by_cases hkey : key = k
      · subst hkey
        have hrest : (key, value) ∉ rest := fun hmem =>
          lt_irrefl key (h.1 key (List.mem_map_of_mem hmem))
        simp [hrest, eq_comm]
      · rw [lookup_cons_of_ne hkey, ← ih h.2]
        simp [hkey]

/-- Sorted members are told apart by the values under their keys. -/
theorem Sorted.ext (ha : Sorted a) (hb : Sorted b)
    (h : ∀ key, a.lookup key = b.lookup key) : a = b := by
  have hnodup : ∀ {c : Members α}, Sorted c → c.Nodup := fun hc => List.Nodup.of_map _ hc.nodup
  have hperm : a.Perm b := by
    rw [List.perm_ext_iff_of_nodup (hnodup ha) (hnodup hb)]
    intro entry
    rw [mem_iff_lookup ha, mem_iff_lookup hb, h]
  refine hperm.eq_of_pairwise ?_ (List.pairwise_map.mp ha) (List.pairwise_map.mp hb)
  exact fun x y _ _ hxy hyx => absurd hyx (lt_asymm hxy)

theorem Sorted.filter (h : Sorted a) (keep : String × α → Bool) : Sorted (a.filter keep) :=
  List.pairwise_map.mpr ((List.pairwise_map.mp h).filter keep)

theorem mem_keys_insert (key other : String) (value : α) (members : Members α) :
    other ∈ keys (insert key value members) ↔ other = key ∨ other ∈ keys members := by
  rw [mem_keys_iff, mem_keys_iff, lookup_insert]
  by_cases h : other = key <;> simp [h]

theorem sorted_insert (key : String) (value : α) (h : Sorted a) :
    Sorted (insert key value a) := by
  induction a with
  | nil => exact List.pairwise_singleton _ _
  | cons entry rest ih =>
      obtain ⟨k, v⟩ := entry
      have hcons := h
      rw [Sorted, keys, List.map_cons, List.pairwise_cons] at hcons
      rw [insert]
      split
      · next heq =>
          subst heq
          exact h
      · next hne =>
          split
          · next hlt =>
              refine List.pairwise_cons.mpr ⟨?_, h⟩
              intro other hother
              rcases List.mem_cons.mp hother with rfl | hother
              · exact hlt
              · exact lt_trans hlt (hcons.1 other hother)
          · next hnlt =>
              refine List.pairwise_cons.mpr ⟨?_, ih hcons.2⟩
              intro other hother
              rcases (mem_keys_insert key other value rest).mp hother with rfl | hother
              · exact lt_of_le_of_ne (not_lt.mp hnlt) (Ne.symm hne)
              · exact hcons.1 other hother

theorem sorted_ofList (entries : List (String × α)) : Sorted (ofList entries) := by
  have hfold : ∀ done : Members α, Sorted done →
      Sorted (entries.foldl (fun members entry => insert entry.1 entry.2 members) done) := by
    induction entries with
    | nil => exact fun done hdone => hdone
    | cons entry rest ih => exact fun done hdone => ih _ (sorted_insert entry.1 entry.2 hdone)
  exact hfold [] sorted_nil

/-- The members of a list are entries of it. -/
theorem mem_of_mem_ofList {entries : List (String × α)} {entry : String × α}
    (h : entry ∈ ofList entries) : entry ∈ entries := by
  rw [mem_iff_lookup (sorted_ofList entries), lookup_ofList, List.lookup_eq_some_iff] at h
  obtain ⟨before, after, hsplit, -⟩ := h
  rw [← List.mem_reverse, hsplit]
  exact List.mem_append_right before List.mem_cons_self

/-- Sorted members stay as they are. -/
theorem ofList_of_sorted (h : Sorted a) : ofList a = a := by
  refine (sorted_ofList a).ext h fun key => ?_
  rw [lookup_ofList, lookup_reverse_of_nodup h.nodup]

end Members

end ModelRegistry
