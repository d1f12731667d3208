import ModelRegistry.Proofs.Architecture.Registry

/-!
# ModelRegistry.Proofs.Architecture.History

What a registry answers after any number of calls, said of the calls. Whatever
was done to it, a registry answers as the list of its entries does (`Lists`), and
that list is the one of the successful registrations so far. A registration fails
for an earlier call of `freeze`, or else for an earlier entry of its id, and for
no other reason; from the first `freeze` on, calls leave the registry as it is.
-/

namespace ModelRegistry

namespace Registry

/-! ## Calls -/

/-- What can be done to a registry. To ask something of it is no call: questions can be asked
between any two calls, and leave the registry as it is. -/
inductive Call where
  | register (a : Architecture)
  | freeze
  deriving DecidableEq

/-- The registry after a call. A registration that fails leaves it as it is. -/
def after (r : Registry) : Call → Registry
  | .register a =>
    match r.register a with
    | .ok next => next
    | .error _ => r
  | .freeze => r.freeze

/-- The registry after some calls. -/
def afterCalls (r : Registry) (calls : List Call) : Registry := calls.foldl after r

/-- The registry that some calls make of an empty one. -/
def ofCalls (calls : List Call) : Registry := empty.afterCalls calls

/-- The entry that a call registers with success. -/
def taken (r : Registry) : Call → Option Architecture
  | .register a =>
    match r.register a with
    | .ok _ => some a
    | .error _ => none
  | .freeze => none

/-- The entries that some calls register with success, in order. -/
def allTaken (r : Registry) : List Call → List Architecture
  | [] => []
  | c :: rest => (r.taken c).toList ++ (r.after c).allTaken rest

/-- The entries that some calls register with success in an empty registry. -/
def registered (calls : List Call) : List Architecture := empty.allTaken calls

variable {r r' : Registry} {a : Architecture} {calls : List Call}

@[simp] theorem afterCalls_cons (c : Call) (rest : List Call) :
    r.afterCalls (c :: rest) = (r.after c).afterCalls rest :=
  rfl

theorem afterCalls_append (calls more : List Call) :
    r.afterCalls (calls ++ more) = (r.afterCalls calls).afterCalls more := by
  rw [afterCalls, List.foldl_append]
  rfl

theorem after_register_of_error {e : RegistryError} (h : r.register a = .error e) :
    r.after (.register a) = r := by
  rw [after, h]

/-! ## Steps and runs -/

theorem entries_after (r : Registry) (c : Call) :
    (r.after c).entries = r.entries ++ (r.taken c).toList := by
  cases c with
  | freeze => simp [after, taken]
  | register a =>
      rcases r.register_cases a with
        ⟨-, herror⟩ | ⟨-, -, herror⟩ | ⟨-, -, next, hok, hentries, -⟩
      · simp [after, taken, herror]
      · simp [after, taken, herror]
      · simp [after, taken, hok, hentries]

theorem frozen_after (r : Registry) (c : Call) :
    (r.after c).frozen = true ↔ r.frozen = true ∨ c = .freeze := by
  cases c with
  | freeze => simp [after]
  | register a =>
      rcases r.register_cases a with
        ⟨-, herror⟩ | ⟨-, -, herror⟩ | ⟨hopen, -, next, hok, -, hopen'⟩
      · simp [after, herror]
      · simp [after, herror]
      · simp [after, hok, hopen, hopen']

theorem after_of_frozen (h : r.frozen = true) (c : Call) : r.after c = r := by
  cases c with
  | freeze => exact freeze_of_frozen h
  | register a => exact after_register_of_error (register_of_frozen h a)

/-- An entry that is found is found after any call. -/
theorem find?_after {id : String} (h : r.find? id = some a) (c : Call) :
    (r.after c).find? id = some a := by
  rw [find?_eq_find?_entries] at h ⊢
  rw [entries_after, List.find?_append, h, Option.some_or]

theorem entries_afterCalls (r : Registry) (calls : List Call) :
    (r.afterCalls calls).entries = r.entries ++ r.allTaken calls := by
  induction calls generalizing r with
  | nil => rw [allTaken, List.append_nil]; rfl
  | cons c rest ih => rw [afterCalls_cons, ih, entries_after, allTaken, List.append_assoc]

theorem frozen_afterCalls (r : Registry) (calls : List Call) :
    (r.afterCalls calls).frozen = true ↔ r.frozen = true ∨ .freeze ∈ calls := by
  induction calls generalizing r with
  | nil => simp [afterCalls]
  | cons c rest ih =>
      rw [afterCalls_cons, ih, frozen_after, List.mem_cons, or_assoc, @eq_comm _ c]

theorem afterCalls_of_frozen (h : r.frozen = true) (calls : List Call) :
    r.afterCalls calls = r := by
  induction calls with
  | nil => rfl
  | cons c rest ih => rw [afterCalls_cons, after_of_frozen h, ih]

/-! ## Answers -/

/-- The entry is the first one of a list with this id. -/
def FirstWith (entered : List Architecture) (id : String) (a : Architecture) : Prop :=
  a.id = id ∧ ∃ before after, entered = before ++ a :: after ∧ ∀ b ∈ before, b.id ≠ id

/-- The registry answers as a list of entries does. -/
structure Lists (r : Registry) (entered : List Architecture) : Prop where
  entries : r.entries = entered
  distinct : (entered.map (·.id)).Nodup
  size : r.size = entered.length
  resolve_ok_iff : ∀ id a, r.resolve id = .ok a ↔ FirstWith entered id a
  resolve_error_iff : ∀ id e, r.resolve id = .error e ↔
    id ∉ entered.map (·.id) ∧ e = .unregisteredArchitecture id
  resolveFirst_ok_iff : ∀ ids a, r.resolveFirst ids = .ok a ↔
    ∃ before after, ids = before ++ a.id :: after ∧
      (∀ id ∈ before, id ∉ entered.map (·.id)) ∧ FirstWith entered a.id a
  resolveFirst_error_iff : ∀ ids e, ids ≠ [] → (r.resolveFirst ids = .error e ↔
    (∀ id ∈ ids, id ∉ entered.map (·.id)) ∧
      e = .unregisteredArchitecture (", ".intercalate ids))
  resolveFirst_nil : r.resolveFirst [] =
    .error (.unregisteredArchitecture "empty architectures list")

theorem find?_eq_some_iff_firstWith {id : String} :
    r.find? id = some a ↔ FirstWith r.entries id a := by
  rw [find?_eq_find?_entries, List.find?_eq_some_iff_append, FirstWith]
  simp

theorem resolve_eq_ok_iff {id : String} : r.resolve id = .ok a ↔ r.find? id = some a := by
  rw [resolve]
  cases r.find? id with
  | none => simp
  | some b => simp

theorem resolve_eq_error_iff {id : String} {e : RegistryError} :
    r.resolve id = .error e ↔ r.contains id = false ∧ e = .unregisteredArchitecture id := by
  rw [resolve, contains]
  cases r.find? id with
  | none => simp [eq_comm]
  | some b => simp

theorem lists_entries (r : Registry) : r.Lists r.entries where
  entries := rfl
  distinct := r.nodup_ids
  size := rfl
  resolve_ok_iff id a := resolve_eq_ok_iff.trans find?_eq_some_iff_firstWith
  resolve_error_iff id e := by
    rw [resolve_eq_error_iff, contains_eq_false_iff_not_mem_ids]
  resolveFirst_ok_iff ids a := by
    rw [resolveFirst_eq_ok_iff]
    constructor
    · intro h
      obtain ⟨⟨before, after, hids, hbefore⟩, hfound⟩ := h
      exact ⟨before, after, hids,
        fun id hid => contains_eq_false_iff_not_mem_ids.mp (hbefore id hid),
        find?_eq_some_iff_firstWith.mp hfound⟩
    · intro h
      obtain ⟨before, after, hids, hbefore, hfirst⟩ := h
      exact ⟨⟨before, after, hids,
        fun id hid => contains_eq_false_iff_not_mem_ids.mpr (hbefore id hid)⟩,
        find?_eq_some_iff_firstWith.mpr hfirst⟩
  resolveFirst_error_iff ids e hids := by
    simp only [resolveFirst_eq_error_iff hids, contains_eq_false_iff_not_mem_ids]
  resolveFirst_nil := rfl

/-- Whatever is asked of two registries, they answer alike. -/
structure AnswersAs (r r' : Registry) : Prop where
  entries : r'.entries = r.entries
  size : r'.size = r.size
  resolve : ∀ id, r'.resolve id = r.resolve id
  resolveFirst : ∀ ids, r'.resolveFirst ids = r.resolveFirst ids

theorem answersAs_freeze (r : Registry) : r.AnswersAs r.freeze where
  entries := entries_freeze r
  size := by rw [size, size, entries_freeze]
  resolve id := by rw [resolve, resolve, find?_freeze]
  resolveFirst ids := by
    have hfind : r.freeze.find? = r.find? := funext (find?_freeze r)
    rw [resolveFirst, resolveFirst, hfind]

/-! ## Main theorem -/

theorem entries_ofCalls (calls : List Call) : (ofCalls calls).entries = registered calls := by
  rw [ofCalls, entries_afterCalls]
  rfl

theorem frozen_ofCalls (calls : List Call) :
    (ofCalls calls).frozen = true ↔ .freeze ∈ calls := by
  rw [ofCalls, frozen_afterCalls]
  simp [empty, frozen]

theorem register_ofCalls_eq_error_iff {e : RegistryError} :
    (ofCalls calls).register a = .error e ↔
      (.freeze ∈ calls ∧ e = .registryFrozen a.id) ∨
      (.freeze ∉ calls ∧ a.id ∈ (registered calls).map (·.id) ∧
        e = .duplicateArchitecture a.id) := by
  rw [← frozen_ofCalls, ← entries_ofCalls, ← contains_iff_mem_ids]
  rcases (ofCalls calls).register_cases a with
    ⟨hfrozen, herror⟩ | ⟨hopen, hcontains, herror⟩ | ⟨hopen, hnew, next, hok, -, -⟩
  · simp [herror, hfrozen, @eq_comm _ e]
  · simp [herror, hopen, hcontains, @eq_comm _ e]
  · simp [hok, hopen, hnew]

/-- **A registry is a list that grows until it is frozen**: after any calls it answers as the list
of the entries that were registered with success, in order and with distinct ids. A registration
fails exactly if there was a call of `freeze`, or else if its id is in that list, and it then
changes nothing. A call of `freeze`, be it the first or a later one, changes no answer about
entries, and after it no call changes anything. -/
theorem answers_follow_calls (calls : List Call) :
    (ofCalls calls).Lists (registered calls) ∧
    ((ofCalls calls).frozen = true ↔ .freeze ∈ calls) ∧
    (∀ a e, (ofCalls calls).register a = .error e ↔
      (.freeze ∈ calls ∧ e = .registryFrozen a.id) ∨
      (.freeze ∉ calls ∧ a.id ∈ (registered calls).map (·.id) ∧
        e = .duplicateArchitecture a.id)) ∧
    (∀ a e, (ofCalls calls).register a = .error e →
      ofCalls (calls ++ [.register a]) = ofCalls calls) ∧
    (ofCalls calls).AnswersAs (ofCalls (calls ++ [.freeze])) ∧
    ∀ more, ofCalls (calls ++ .freeze :: more) = ofCalls (calls ++ [.freeze]) := by
  refine ⟨?_, frozen_ofCalls calls, fun a e => register_ofCalls_eq_error_iff, ?_, ?_, ?_⟩
  · rw [← entries_ofCalls]
    exact lists_entries _
  · intro a e herror
    rw [ofCalls, afterCalls_append]
    exact after_register_of_error herror
  · rw [ofCalls, ofCalls, afterCalls_append]
    exact answersAs_freeze _
  · intro more
    have hfrozen : (ofCalls (calls ++ [.freeze])).frozen = true := by
      rw [frozen_ofCalls]
      simp
    rw [List.append_cons, ofCalls, afterCalls_append]
    exact afterCalls_of_frozen hfrozen more

/-- An entry with this implementation. -/
def fixture (id name : String) : Architecture := ⟨id, [.text], ⟨"models", name⟩, none, none⟩

/-- The first entry of an id stays, before and after freezing. -/
theorem first_entry_stays :
    let calls : List Call := [.register (fixture "A" "First"), .register (fixture "B" "Other")]
    (ofCalls calls).register (fixture "A" "Second") = .error (.duplicateArchitecture "A") ∧
      (ofCalls calls).resolveFirst ["C", "A", "B"] = .ok (fixture "A" "First") ∧
      (ofCalls calls).resolveFirst ["C", "D"] = .error (.unregisteredArchitecture "C, D") ∧
      (ofCalls (calls ++ .freeze :: [.register (fixture "C" "Late"), .freeze])).resolve "A" =
        .ok (fixture "A" "First") := by
  intro calls
  obtain ⟨hlists, -, herror, -, hfreeze, hafter⟩ := answers_follow_calls calls
  refine ⟨(herror _ _).mpr (.inr (by decide)), ?_, ?_, ?_⟩
  · exact (hlists.resolveFirst_ok_iff _ _).mpr
      ⟨["C"], ["B"], rfl, by decide, rfl, [], [fixture "B" "Other"], rfl, by simp⟩
  · exact (hlists.resolveFirst_error_iff _ _ (by simp)).mpr ⟨by decide, rfl⟩
  · rw [hafter, hfreeze.resolve]
    exact (hlists.resolve_ok_iff _ _).mpr ⟨rfl, [], [fixture "B" "Other"], rfl, by simp⟩

end Registry

end ModelRegistry
