import ModelRegistry.Proofs.Config.FieldValue
import ModelRegistry.Proofs.Loading

/-!
# ModelRegistry.Proofs.Config.Words

Integers in typed fields are signed words of 64 bits, wherever in a configuration they
stand: the reader of such a field takes no others. Only a field of the type `any` can
hold a larger integer, and there it is not read as one.
-/

namespace ModelRegistry

open Number

/-- An integer in a typed field is a signed word. -/
def FieldValue.IsWord : FieldValue → Prop
  | .integer n => IsSigned n
  | _ => True

namespace FieldValue

theorem isWord_of_ofJson? {t : FieldType} {v : Json} {value : FieldValue}
    (h : ofJson? t v = some value) : value.IsWord := by
  cases t with
  | integer =>
      obtain ⟨n, hn, rfl⟩ := Option.map_eq_some_iff.mp h
      exact (Json.int64?_eq_some_iff.mp hn).2
  | any =>
      obtain rfl := Option.some.inj h
      trivial
  | bool | float | string | integerList | stringList | object =>
      obtain ⟨x, -, rfl⟩ := Option.map_eq_some_iff.mp h
      trivial

theorem isSigned_of_int? {v : FieldValue} {n : Int} (hv : v.IsWord) (h : v.int? = some n) :
    IsSigned n := by
  cases v with
  | integer m =>
      obtain rfl := Option.some.inj h
      exact hv
  | any v => exact (Json.int64?_eq_some_iff.mp h).2
  | _ => contradiction

end FieldValue

/-- The integers in typed fields are signed words, in the descriptor and all nested in it. -/
def Descriptor.HoldsWords (d : Descriptor) : Prop :=
  ∀ part ∈ d.walk, ∀ name v, part.get? name = some v → v.IsWord

/-! ## Configurations -/

namespace Config

theorem isWord_of_readFields {raw : Json.Object} {done values : Members FieldValue}
    {specs : List FieldSpec} (hdone : ∀ name v, done.lookup name = some v → v.IsWord)
    (h : readFields raw done specs = .ok values) :
    ∀ name v, values.lookup name = some v → v.IsWord := by
  induction specs generalizing done with
  | nil =>
      obtain rfl := Except.ok.inj h
      exact hdone
  | cons spec rest ih =>
      have hread := fieldReading raw spec
      rw [readFields] at h
      generalize readField raw spec = reading at h hread
      cases hread with
      | @value v value hsource htype =>
          refine ih ?_ h
          intro name w hw
          rw [Members.lookup_insert] at hw
          split at hw
          · obtain rfl := Option.some.inj hw
            exact FieldValue.isWord_of_ofJson? htype
          · exact hdone name w hw
      | absent => exact ih hdone h
      | missing | heldMismatch | defaultMismatch => contradiction

/-- What is read against a class holds words. -/
theorem holdsWords_of_instantiate {c : ConfigClass} {provenance : Provenance}
    {slot : Option String} {raw : Json.Object} {d : Descriptor}
    (h : instantiate provenance slot raw c = .ok d) : d.HoldsWords := by
  induction c using ConfigClass.slotInduction generalizing slot raw d with
  | node c ih =>
      obtain ⟨values, nested, hvalues, hnested, rfl⟩ :=
        (instantiate_eq_ok_iff provenance slot raw c d).mp h
      intro part hpart
      rw [Descriptor.walk, List.mem_cons, mem_walkAll] at hpart
      rcases hpart with rfl | ⟨child, hchild, hpart⟩
      · exact isWord_of_readFields (fun _ _ h => by contradiction) hvalues
      · obtain ⟨s, hs, object, h'⟩ := exists_slot_of_mem hnested hchild
        exact ih s hs h' part hpart

end Config

theorem Resolver.holdsWords_of_resolveModel {r : Resolver} {files : Files} {fetcher : Fetcher}
    {locator : String} {m : ResolvedModel} (h : r.resolveModel files fetcher locator = .ok m) :
    m.config.HoldsWords := by
  obtain ⟨-, hconfig⟩ := resolve_of_resolveModel h
  obtain ⟨id, strategy, k, -, hread⟩ := exists_instantiate_of_resolve hconfig
  exact Config.holdsWords_of_instantiate hread

end ModelRegistry
