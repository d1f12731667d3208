import ModelRegistry.Json.Reader
import ModelRegistry.Proofs.Document
import ModelRegistry.Proofs.Number.Decimal

/-!
# ModelRegistry.Proofs.Json.Reader

What is read from JSON text is proper: integers of 64 bits, finite floats, and
objects that are sorted by key. The reader's three functions call each other, so
`Reads` states the property for all of them at one fuel, and `reads` is the
induction on the fuel.
-/

namespace ModelRegistry

open Number

namespace Json.Reader

/-! ## Lists -/

theorem exists_of_mem_mapM {α β : Type} {f : α → Option β} {xs : List α} {ys : List β}
    (h : xs.mapM f = some ys) {y : β} (hy : y ∈ ys) : ∃ x ∈ xs, f x = some y := by
  induction xs generalizing ys with
  | nil =>
      obtain rfl : [] = ys := by simpa using h
      contradiction
  | cons x rest ih =>
      simp only [List.mapM_cons, Option.bind_eq_bind, Option.pure_def, Option.bind_eq_some_iff,
        Option.some.injEq] at h
      obtain ⟨z, hz, zs, hzs, rfl⟩ := h
      rcases List.mem_cons.mp hy with rfl | hy
      · exact ⟨x, List.mem_cons_self, hz⟩
      · obtain ⟨w, hw, hwy⟩ := ih hzs hy
        exact ⟨w, List.mem_cons_of_mem x hw, hwy⟩

theorem forall_mem_reverse_cons {α : Type} {p : α → Prop} {x : α} {xs : List α} (hx : p x)
    (hxs : ∀ y ∈ xs, p y) : ∀ y ∈ (x :: xs).reverse, p y := by
  intro y hy
  rcases List.mem_cons.mp (List.mem_reverse.mp hy) with rfl | hy
  · exact hx
  · exact hxs y hy

/-! ## Parts of a text -/

theorem proper_of_float (l : Literal) : (Literal.toDocument.float l).Proper := by
  rw [Literal.toDocument.float]
  split
  · next x hx => exact .float (isFinite_of_scaledDecimal? hx)
  · exact .unreadable

theorem proper_of_literal (l : Literal) : l.toDocument.Proper := by
  have hsigned : (signedBound : Int) = 2 ^ 63 := rfl
  have hsize : (UInt64.size : Int) = 2 ^ 64 := rfl
  simp only [Literal.toDocument]
  split
  · split
    · split
      · next h => exact .integer (by omega) (by omega)
      · exact proper_of_float l
    · split
      · next h => exact .integer (by omega) (by omega)
      · exact proper_of_float l
  · exact proper_of_float l

theorem proper_stringDocument (s? : Option String) : (stringDocument s?).Proper := by
  cases s? with
  | none => exact .unreadable
  | some s => exact .string s

theorem proper_objectDocument {members : List (Option String × Document)}
    (h : ∀ member ∈ members, member.2.Proper) : (objectDocument members).Proper := by
  rw [objectDocument]
  split
  · next named hnamed =>
      refine .object fun member hmember => ?_
      obtain ⟨read, hread, hname⟩ := exists_of_mem_mapM hnamed hmember
      obtain ⟨key, -, rfl⟩ := Option.map_eq_some_iff.mp hname
      exact h read hread
  · exact .unreadable

theorem proper_ite {p : Prop} [Decidable p] {d : Document} (h : d.Proper) :
    (if p then d else .unreadable).Proper := by
  split
  · exact h
  · exact .unreadable

/-! ## The reader -/

/-- With this much fuel, whatever is read is proper. -/
structure Reads (fuel : Nat) : Prop where
  value : ∀ {depth cs d rest}, value? fuel depth cs = some (d, rest) → d.Proper
  items : ∀ {depth done cs ds rest}, (∀ d ∈ done, d.Proper) →
    items? fuel depth done cs = some (ds, rest) → ∀ d ∈ ds, d.Proper
  members : ∀ {depth done cs ds rest}, (∀ member ∈ done, member.2.Proper) →
    members? fuel depth done cs = some (ds, rest) → ∀ member ∈ ds, member.2.Proper

namespace Reads

variable {fuel depth : Nat} {cs rest : List Char}

theorem value_succ (hreads : Reads fuel) {d : Document}
    (h : value? (fuel + 1) depth cs = some (d, rest)) : d.Proper := by
  rw [value?] at h
  split at h
  · obtain ⟨rfl, -⟩ := Prod.mk.inj (Option.some.inj h)
    exact .null
  · obtain ⟨rfl, -⟩ := Prod.mk.inj (Option.some.inj h)
    exact .bool true
  · obtain ⟨rfl, -⟩ := Prod.mk.inj (Option.some.inj h)
    exact .bool false
  · obtain ⟨⟨s?, after⟩, -, hd⟩ := Option.map_eq_some_iff.mp h
    obtain ⟨rfl, -⟩ := Prod.mk.inj hd
    exact proper_stringDocument s?
  · obtain ⟨⟨items, after⟩, hitems, hd⟩ := Option.map_eq_some_iff.mp h
    obtain ⟨rfl, -⟩ := Prod.mk.inj hd
    refine proper_ite (.array ?_)
    split at hitems
    · obtain ⟨rfl, -⟩ := Prod.mk.inj (Option.some.inj hitems)
      exact List.forall_mem_nil _
    · exact hreads.items (List.forall_mem_nil _) hitems
  · obtain ⟨⟨members, after⟩, hmembers, hd⟩ := Option.map_eq_some_iff.mp h
    obtain ⟨rfl, -⟩ := Prod.mk.inj hd
    refine proper_ite (proper_objectDocument ?_)
    split at hmembers
    · obtain ⟨rfl, -⟩ := Prod.mk.inj (Option.some.inj hmembers)
      exact List.forall_mem_nil _
    · exact hreads.members (List.forall_mem_nil _) hmembers
  · obtain ⟨⟨l, after⟩, -, hd⟩ := Option.map_eq_some_iff.mp h
    obtain ⟨rfl, -⟩ := Prod.mk.inj hd
    exact proper_of_literal l

theorem items_succ (hreads : Reads fuel) {done ds : List Document} (hdone : ∀ d ∈ done, d.Proper)
    (h : items? (fuel + 1) depth done cs = some (ds, rest)) : ∀ d ∈ ds, d.Proper := by
  rw [items?] at h
  split at h
  · contradiction
  · next hd =>
      split at h
      · exact hreads.items (List.forall_mem_cons.mpr ⟨hreads.value hd, hdone⟩) h
      · obtain ⟨rfl, -⟩ := Prod.mk.inj (Option.some.inj h)
        exact forall_mem_reverse_cons (hreads.value hd) hdone
      · contradiction

theorem members_succ (hreads : Reads fuel) {done ds : List (Option String × Document)}
    (hdone : ∀ member ∈ done, member.2.Proper)
    (h : members? (fuel + 1) depth done cs = some (ds, rest)) :
    ∀ member ∈ ds, member.2.Proper := by
  rw [members?] at h
  split at h
  · split at h
    · contradiction
    · split at h
      · split at h
        · contradiction
        · next hd =>
            split at h
            · exact hreads.members (List.forall_mem_cons.mpr ⟨hreads.value hd, hdone⟩) h
            · obtain ⟨rfl, -⟩ := Prod.mk.inj (Option.some.inj h)
              exact forall_mem_reverse_cons (hreads.value hd) hdone
            · contradiction
      · contradiction
  · contradiction

end Reads

theorem reads (fuel : Nat) : Reads fuel := by
  induction fuel with
  | zero =>
      refine ⟨fun h => ?_, fun _ h => ?_, fun _ h => ?_⟩
      · rw [value?] at h
        contradiction
      · rw [items?] at h
        contradiction
      · rw [members?] at h
        contradiction
  | succ fuel ih => exact ⟨ih.value_succ, ih.items_succ, ih.members_succ⟩

/-! ## Texts -/

/-- The document of a JSON text is proper. -/
theorem proper_of_document? {text : String} {d : Document} (h : document? text = some d) :
    d.Proper := by
  simp only [document?] at h
  split at h
  · next hvalue =>
      obtain ⟨-, h⟩ := Option.ite_none_right_eq_some.mp h
      obtain rfl := Option.some.inj h
      exact (reads _).value hvalue
  · contradiction

end Json.Reader

/-- **Values of JSON text**: their integers have 64 bits, their floats are finite, and the keys of
their objects are in order. -/
theorem Json.proper_of_parse? {text : String} {v : Json} (h : Json.parse? text = some v) :
    v.Proper := by
  obtain ⟨d, hd, hv⟩ := Option.bind_eq_some_iff.mp h
  exact (Reader.proper_of_document? hd).toJson? hv

end ModelRegistry
