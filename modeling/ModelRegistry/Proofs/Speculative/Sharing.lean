import Mathlib.Data.List.Dedup
import ModelRegistry.Proofs.Architecture.History
import ModelRegistry.Proofs.Speculative.Pairing
import ModelRegistry.Proofs.Table

/-!
# ModelRegistry.Proofs.Speculative.Sharing

What a table of pairs hands out while its registry may still change. An answer is
always the one that a new table would give, since entries are only ever added to a
registry and failures are not remembered; and what was handed out once is handed
out again, as the same object, alone or inside a pair.

A call either finds an object in the table or puts a new one under a new key. So
the tables stay `Numbered`, and a run `Tracks` what it has handed out: all of it
is still in the table.
-/

namespace ModelRegistry

namespace PairingTable

variable {r : Registry} {t t' t'' : PairingTable} {id target draft : String}

/-! ## One call -/

/-- Every object of the table has its own key and serial number, and the facts of a pair are those
that the table has for its ids. -/
structure Shares (t : PairingTable) : Prop where
  facts : t.facts.Numbered
  pairings : t.pairings.Numbered
  inside : ∀ target draft p, t.pairings.lookup (target, draft) = some p →
    t.facts.lookup target = some p.value.target ∧ t.facts.lookup draft = some p.value.draft

/-- What the first table has, the second one has too. -/
structure Grows (t t' : PairingTable) : Prop where
  facts : ∀ id facts, t.facts.lookup id = some facts → t'.facts.lookup id = some facts
  pairings : ∀ key p, t.pairings.lookup key = some p → t'.pairings.lookup key = some p

theorem shares_empty : Shares empty where
  facts := .nil
  pairings := .nil
  inside target draft p h := by simp [empty] at h

theorem Grows.refl (t : PairingTable) : t.Grows t :=
  ⟨fun _ _ => id, fun _ _ => id⟩

theorem Grows.trans (h : t.Grows t') (h' : t'.Grows t'') : t.Grows t'' :=
  ⟨fun id facts hfacts => h'.facts id facts (h.facts id facts hfacts),
    fun key p hp => h'.pairings key p (h.pairings key p hp)⟩

/-- What a look-up of facts leaves: the same pairs, and the facts if there are any. -/
structure Finds (t t' : PairingTable) (id : String)
    (answer : Except RegistryError (Shared SpeculativeFacts)) : Prop where
  shares : t'.Shares
  grows : t.Grows t'
  pairings : t'.pairings = t.pairings
  found : ∀ facts, answer = .ok facts → t'.facts.lookup id = some facts

theorem Shares.putFacts (h : t.Shares) (hid : t.facts.lookup id = none)
    (facts : SpeculativeFacts) :
    let made : Shared SpeculativeFacts := ⟨t.facts.length, facts⟩
    t.Finds { t with facts := t.facts.put id made } id (.ok made) := by
  intro made
  have hgrows : t.Grows { t with facts := t.facts.put id made } :=
    ⟨fun _ _ => Table.lookup_put_of_new hid made, fun _ _ hp => hp⟩
  refine ⟨⟨?_, h.pairings, ?_⟩, hgrows, rfl, ?_⟩
  · exact h.facts.put (Table.not_mem_keys_of_lookup hid) facts
  · intro target draft p hp
    obtain ⟨htarget, hdraft⟩ := h.inside target draft p hp
    exact ⟨hgrows.facts _ _ htarget, hgrows.facts _ _ hdraft⟩
  · intro facts hfacts
    rw [← Except.ok.inj hfacts, Table.lookup_put, if_pos rfl]

theorem Shares.compatibility (h : t.Shares) (r : Registry) (id : String) :
    t.Finds (t.compatibility r id).2 id (t.compatibility r id).1 := by
  rw [PairingTable.compatibility]
  cases hfacts : t.facts.lookup id with
  | some facts => exact ⟨h, .refl t, rfl, fun _ hsame => Except.ok.inj hsame ▸ hfacts⟩
  | none =>
      cases hresolve : r.resolve id with
      | error e => exact ⟨h, .refl t, rfl, fun _ hsame => by cases hsame⟩
      | ok a => exact h.putFacts hfacts (.ofArchitecture a)

/-- What a look-up of a pair leaves: the pair if there is one, and no other that is new. -/
structure FindsPair (t t' : PairingTable) (key : String × String)
    (answer : Except PairingError (Shared Pairing)) : Prop where
  shares : t'.Shares
  grows : t.Grows t'
  found : ∀ p, answer = .ok p → t'.pairings.lookup key = some p
  keys : ∀ other, other ∈ t'.pairings.map (·.1) ↔
    other ∈ t.pairings.map (·.1) ∨ (other = key ∧ ∃ p, answer = .ok p)

theorem Shares.putPair (h : t.Shares) (hkey : t.pairings.lookup (target, draft) = none)
    {p : Pairing} (htarget : t.facts.lookup target = some p.target)
    (hdraft : t.facts.lookup draft = some p.draft) :
    let made : Shared Pairing := ⟨t.pairings.length, p⟩
    t.FindsPair { t with pairings := t.pairings.put (target, draft) made } (target, draft)
      (.ok made) := by
  intro made
  have hnew := Table.not_mem_keys_of_lookup hkey
  have hgrows : t.Grows { t with pairings := t.pairings.put (target, draft) made } :=
    ⟨fun _ _ hfacts => hfacts, fun _ _ => Table.lookup_put_of_new hkey made⟩
  refine ⟨⟨h.facts, h.pairings.put hnew p, ?_⟩, hgrows, ?_, ?_⟩
  · intro target' draft' p' hp'
    simp only [lookup_put_pair] at hp'
    split at hp'
    · next hsame =>
        obtain ⟨rfl, rfl⟩ := Prod.mk.inj hsame
        rw [← Option.some.inj hp']
        exact ⟨htarget, hdraft⟩
    · exact h.inside target' draft' p' hp'
  · intro p' hp'
    rw [← Except.ok.inj hp', lookup_put_pair, if_pos rfl]
  · intro other
    simp [Table.put_of_not_mem hnew, or_comm]

/-- A pair that is refused leaves facts behind at most. -/
theorem findsPair_of_error (h : t'.Shares) (hgrows : t.Grows t')
    (hpairings : t'.pairings = t.pairings) (key : String × String) (e : PairingError) :
    t.FindsPair t' key (.error e) :=
  ⟨h, hgrows, by simp, by simp [hpairings]⟩

theorem Shares.pair (h : t.Shares) (r : Registry) (target draft : String) :
    t.FindsPair (t.pair r target draft).2 (target, draft) (t.pair r target draft).1 := by
  rw [PairingTable.pair]
  cases hkey : t.pairings.lookup (target, draft) with
  | some p =>
      refine ⟨h, .refl t, fun _ hsame => Except.ok.inj hsame ▸ hkey, ?_⟩
      have hmem : (target, draft) ∈ t.pairings.map (·.1) :=
        List.mem_map.mpr ⟨_, Table.mem_of_lookup hkey, rfl⟩
      intro other
      constructor
      · exact .inl
      · rintro (hother | ⟨rfl, -⟩)
        · exact hother
        · exact hmem
  | none =>
      have hlooked := h.compatibility r target
      dsimp only
      generalize t.compatibility r target = looked at hlooked ⊢
      obtain ⟨targetFacts, t'⟩ := looked
      cases targetFacts with
      | error e => exact findsPair_of_error hlooked.shares hlooked.grows hlooked.pairings _ _
      | ok targetFacts =>
          have hlooked' := hlooked.shares.compatibility r draft
          dsimp only at hlooked hlooked' ⊢
          generalize t'.compatibility r draft = looked' at hlooked' ⊢
          obtain ⟨draftFacts, t''⟩ := looked'
          have hgrows := hlooked.grows.trans hlooked'.grows
          have hpairings := hlooked'.pairings.trans hlooked.pairings
          cases draftFacts with
          | error e => exact findsPair_of_error hlooked'.shares hgrows hpairings _ _
          | ok draftFacts =>
              dsimp only at hlooked' hgrows hpairings ⊢
              cases PairAdapter.compose targetFacts.value draftFacts.value with
              | error e => exact findsPair_of_error hlooked'.shares hgrows hpairings _ _
              | ok adapter =>
                  have hput := hlooked'.shares.putPair (hpairings ▸ hkey)
                    (p := ⟨targetFacts, draftFacts, adapter⟩)
                    (hlooked'.grows.facts _ _ (hlooked.found _ rfl)) (hlooked'.found _ rfl)
                  exact ⟨hput.shares, hgrows.trans hput.grows, hput.found,
                    fun other => hpairings ▸ hput.keys other⟩

end PairingTable

/-! ## Answers up to identity -/

/-- The pair as it is but for the identity of its facts. -/
def Pairing.content (p : Pairing) : SpeculativeFacts × SpeculativeFacts × PairAdapter :=
  (p.target.value, p.draft.value, p.adapter)

namespace Registry

variable {r r' : Registry} {id target draft : String} {facts facts' : SpeculativeFacts}
  {p : Pairing}

theorem Declares.contains (h : r.Declares id facts) : r.contains id = true := by
  obtain ⟨a, ha, -⟩ := h
  exact contains_of_find? ha

theorem Declares.unique (h : r.Declares id facts) (h' : r.Declares id facts') : facts = facts' := by
  obtain ⟨a, ha, rfl⟩ := h
  obtain ⟨b, hb, rfl⟩ := h'
  rw [Option.some.inj (ha.symm.trans hb)]

/-- Answers about two ids are the same but for the identity of the objects. -/
theorem Answers.content_eq {x y : Except PairingError (Shared Pairing)}
    (hx : r.Answers target draft x) (hy : r.Answers target draft y) :
    x.map (·.value.content) = y.map (·.value.content) := by
  cases x with
  | error e =>
      cases y with
      | error e' => rw [Except.error.inj (hx.symm.trans hy)]
      | ok q => exact absurd (hx.symm.trans hy.composed) (by simp)
  | ok p =>
      cases y with
      | error e' => exact absurd (hx.composed.symm.trans hy) (by simp)
      | ok q =>
          have hadapter := Except.ok.inj (hx.composed.symm.trans hy.composed)
          simp only [Except.map, Pairing.content, hx.targetFacts.unique hy.targetFacts,
            hx.draftFacts.unique hy.draftFacts, hadapter]

/-- What a registry declares, it declares with more entries too. -/
theorem Declares.mono (h : r.Declares id facts)
    (hfind : ∀ id a, r.find? id = some a → r'.find? id = some a) : r'.Declares id facts := by
  obtain ⟨a, ha, rfl⟩ := h
  exact ⟨a, hfind id a ha, rfl⟩

theorem Pairs.mono (h : r.Pairs target draft p)
    (hfind : ∀ id a, r.find? id = some a → r'.find? id = some a) : r'.Pairs target draft p := by
  obtain ⟨a, ha, -⟩ := h.targetFacts
  obtain ⟨b, hb, -⟩ := h.draftFacts
  refine ⟨h.targetFacts.mono hfind, h.draftFacts.mono hfind, ?_⟩
  rw [← h.composed, verdict_of_find? ha hb, verdict_of_find? (hfind _ _ ha) (hfind _ _ hb)]

end Registry

namespace PairingTable

variable {r r' : Registry} {t t' : PairingTable}

theorem Sound.mono (h : t.Sound r)
    (hfind : ∀ id a, r.find? id = some a → r'.find? id = some a) : t.Sound r' where
  facts hfacts := (h.facts hfacts).mono hfind
  pairings hp := (h.pairings hp).mono hfind

/-- What a table has handed out does not show in the facts that it answers. -/
theorem Sound.compatibility_eq (h : t.Sound r) (h' : t'.Sound r) (id : String) :
    (t.compatibility r id).1.map (·.value) = (t'.compatibility r id).1.map (·.value) := by
  obtain ⟨-, hx⟩ := h.compatibility id
  obtain ⟨-, hy⟩ := h'.compatibility id
  generalize (t.compatibility r id).1 = x at hx ⊢
  generalize (t'.compatibility r id).1 = y at hy ⊢
  cases x with
  | error e =>
      cases y with
      | error e' => rw [hx.2, hy.2]
      | ok facts => exact absurd (hx.1.symm.trans hy.contains) (by simp)
  | ok facts =>
      cases y with
      | error e => exact absurd (hy.1.symm.trans hx.contains) (by simp)
      | ok facts' => rw [Except.map, Except.map, hx.unique hy]

/-- What a table has handed out does not show in the pairs that it answers. -/
theorem Sound.pair_eq (h : t.Sound r) (h' : t'.Sound r) (target draft : String) :
    (t.pair r target draft).1.map (·.value.content) =
      (t'.pair r target draft).1.map (·.value.content) :=
  (h.pair target draft).2.content_eq (h'.pair target draft).2

end PairingTable

/-! ## Runs -/

/-- A registry that may still change, and a table of what was handed out from it. -/
structure Pairer where
  registry : Registry
  table : PairingTable

/-- An object that was handed out. -/
inductive Handed where
  | facts (id : String) (facts : Shared SpeculativeFacts)
  | pair (target draft : String) (pairing : Shared Pairing)

namespace Handed

/-- The facts that are handed out, those of a pair among them, with their ids. -/
def allFacts : Handed → List (String × Shared SpeculativeFacts)
  | .facts id found => [(id, found)]
  | .pair target draft p => [(target, p.value.target), (draft, p.value.draft)]

/-- The pair that is handed out, with its ids. -/
def pair? : Handed → Option ((String × String) × Shared Pairing)
  | .facts _ _ => none
  | .pair target draft p => some ((target, draft), p)

end Handed

namespace Pairer

/-- What can be done to the registry, or asked of the table. -/
inductive Call where
  | change (call : Registry.Call)
  | compatibility (id : String)
  | pair (target draft : String)
  deriving DecidableEq

/-- The facts of an id. -/
def compatibility (s : Pairer) (id : String) : Except RegistryError (Shared SpeculativeFacts) :=
  (s.table.compatibility s.registry id).1

/-- The pair of two ids. -/
def pair (s : Pairer) (target draft : String) : Except PairingError (Shared Pairing) :=
  (s.table.pair s.registry target draft).1

/-- The pairer after a call. -/
def after (s : Pairer) : Call → Pairer
  | .change call => { s with registry := s.registry.after call }
  | .compatibility id => { s with table := (s.table.compatibility s.registry id).2 }
  | .pair target draft => { s with table := (s.table.pair s.registry target draft).2 }

/-- What a call hands out, if it succeeds. -/
def handed (s : Pairer) : Call → List Handed
  | .change _ => []
  | .compatibility id =>
    match s.compatibility id with
    | .ok facts => [.facts id facts]
    | .error _ => []
  | .pair target draft =>
    match s.pair target draft with
    | .ok p => [.pair target draft p]
    | .error _ => []

/-- The pairer after some calls. -/
def afterCalls (s : Pairer) (calls : List Call) : Pairer := calls.foldl after s

/-- What some calls hand out. -/
def allHanded (s : Pairer) : List Call → List Handed
  | [] => []
  | c :: rest => s.handed c ++ (s.after c).allHanded rest

/-- A registry with a table that has handed out nothing. -/
def ofRegistry (r : Registry) : Pairer := ⟨r, .empty⟩

/-- The run has handed out nothing that is not in the table still, and the table has no pair that
the run has not handed out. -/
structure Tracks (s : Pairer) (given : List Handed) : Prop where
  sound : s.table.Sound s.registry
  shares : s.table.Shares
  facts : ∀ id facts, (id, facts) ∈ given.flatMap Handed.allFacts →
    s.table.facts.lookup id = some facts
  pairs : ∀ key p, (key, p) ∈ given.filterMap Handed.pair? → s.table.pairings.lookup key = some p
  keys : ∀ key, key ∈ s.table.pairings.map (·.1) ↔ key ∈ (given.filterMap Handed.pair?).map (·.1)

variable {s : Pairer} {r : Registry} {t : PairingTable} {given : List Handed}

theorem tracks_ofRegistry (r : Registry) : (ofRegistry r).Tracks [] where
  sound := PairingTable.sound_empty
  shares := PairingTable.shares_empty
  facts id facts h := by simp at h
  pairs key p h := by simp at h
  keys key := by simp [ofRegistry, PairingTable.empty]

/-- A table that grows keeps what was handed out; what is handed out anew must be in it. -/
theorem Tracks.grow (h : s.Tracks given) (hgrows : s.table.Grows t) (hsound : t.Sound s.registry)
    (hshares : t.Shares) {new : List Handed}
    (hfacts : ∀ id facts, (id, facts) ∈ new.flatMap Handed.allFacts →
      t.facts.lookup id = some facts)
    (hpairs : ∀ key p, (key, p) ∈ new.filterMap Handed.pair? → t.pairings.lookup key = some p)
    (hkeys : ∀ key, key ∈ t.pairings.map (·.1) ↔ key ∈ s.table.pairings.map (·.1) ∨
      key ∈ (new.filterMap Handed.pair?).map (·.1)) :
    Tracks { s with table := t } (given ++ new) where
  sound := hsound
  shares := hshares
  facts id facts hmem := by
    rw [List.flatMap_append, List.mem_append] at hmem
    rcases hmem with hmem | hmem
    · exact hgrows.facts id facts (h.facts id facts hmem)
    · exact hfacts id facts hmem
  pairs key p hmem := by
    rw [List.filterMap_append, List.mem_append] at hmem
    rcases hmem with hmem | hmem
    · exact hgrows.pairings key p (h.pairs key p hmem)
    · exact hpairs key p hmem
  keys key := by
    rw [hkeys, h.keys, List.filterMap_append, List.map_append, List.mem_append]

theorem Tracks.compatibility (h : s.Tracks given) (id : String) :
    (s.after (.compatibility id)).Tracks (given ++ s.handed (.compatibility id)) := by
  have hfinds := h.shares.compatibility s.registry id
  have hsound := (h.sound.compatibility id).1
  cases hanswer : s.compatibility id with
  | error e =>
      have hnone : s.handed (.compatibility id) = [] := by simp only [handed, hanswer]
      rw [hnone]
      exact h.grow hfinds.grows hsound hfinds.shares (by simp) (by simp)
        (by simp [hfinds.pairings])
  | ok found =>
      have hnew : s.handed (.compatibility id) = [.facts id found] := by
        simp only [handed, hanswer]
      rw [hnew]
      refine h.grow hfinds.grows hsound hfinds.shares ?_ (by simp [Handed.pair?])
        (by simp [Handed.pair?, hfinds.pairings])
      intro other facts hmem
      obtain ⟨rfl, rfl⟩ : other = id ∧ facts = found := by simpa [Handed.allFacts] using hmem
      exact hfinds.found _ hanswer

theorem Tracks.pair (h : s.Tracks given) (target draft : String) :
    (s.after (.pair target draft)).Tracks (given ++ s.handed (.pair target draft)) := by
  have hfinds : s.table.FindsPair _ _ (s.pair target draft) :=
    h.shares.pair s.registry target draft
  have hsound := (h.sound.pair target draft).1
  cases hanswer : s.pair target draft with
  | error e =>
      have hnone : s.handed (.pair target draft) = [] := by simp only [handed, hanswer]
      rw [hanswer] at hfinds
      rw [hnone]
      exact h.grow hfinds.grows hsound hfinds.shares (by simp) (by simp) (by simp [hfinds.keys])
  | ok p =>
      have hnew : s.handed (.pair target draft) = [.pair target draft p] := by
        simp only [handed, hanswer]
      rw [hanswer] at hfinds
      rw [hnew]
      have hfound := hfinds.found p rfl
      obtain ⟨htarget, hdraft⟩ := hfinds.shares.inside target draft p hfound
      refine h.grow hfinds.grows hsound hfinds.shares ?_ ?_ (by simp [Handed.pair?, hfinds.keys])
      · intro id facts hmem
        obtain ⟨rfl, rfl⟩ | ⟨rfl, rfl⟩ :
            (id = target ∧ facts = p.value.target) ∨ (id = draft ∧ facts = p.value.draft) := by
          simpa [Handed.allFacts] using hmem
        · exact htarget
        · exact hdraft
      · intro key q hmem
        obtain ⟨rfl, rfl⟩ : key = (target, draft) ∧ q = p := by
          simpa [Handed.pair?] using hmem
        exact hfound

/-- One call. -/
theorem Tracks.after (h : s.Tracks given) (c : Call) :
    (s.after c).Tracks (given ++ s.handed c) := by
  cases c with
  | change call =>
      rw [handed, List.append_nil]
      exact { h with sound := h.sound.mono fun _ _ hfind => Registry.find?_after hfind call }
  | compatibility id => exact h.compatibility id
  | pair target draft => exact h.pair target draft

theorem Tracks.afterCalls (h : s.Tracks given) (calls : List Call) :
    (s.afterCalls calls).Tracks (given ++ s.allHanded calls) := by
  induction calls generalizing s given with
  | nil =>
      rw [allHanded, List.append_nil]
      exact h
  | cons c rest ih =>
      rw [allHanded, ← List.append_assoc]
      exact ih (h.after c)

/-! ## Main theorem -/

end Pairer

/-- Of some objects that were handed out under keys, each key has one object; and each object has
one key, so that serial numbers tell them apart. -/
structure OneEach {κ α : Type} (given : List (κ × Shared α)) : Prop where
  same : ∀ key x y, (key, x) ∈ given → (key, y) ∈ given → x = y
  apart : ∀ key other x y, (key, x) ∈ given → (other, y) ∈ given → x.serial = y.serial →
    key = other

theorem Table.Numbered.oneEach {κ α : Type} [BEq κ] [LawfulBEq κ] {t : Table κ (Shared α)}
    (h : t.Numbered) {given : List (κ × Shared α)}
    (hgiven : ∀ key x, (key, x) ∈ given → t.lookup key = some x) : OneEach given where
  same key x y hx hy := Option.some.inj ((hgiven key x hx).symm.trans (hgiven key y hy))
  apart key other x y hx hy :=
    h.key_eq (mem_of_lookup (hgiven key x hx)) (mem_of_lookup (hgiven other y hy))

namespace Pairer

/-- **What is handed out is shared, and does not go stale**: after any calls, an answer is the one
that a new table gives over the registry as it is then, but for the identity of its objects. All
facts that were handed out for an id, alone or inside a pair, are one object, and so are all pairs
of the same two ids; objects of other ids are other objects. And the table has as many pairs as
there are pairs of ids for which one was handed out. -/
theorem handed_out_objects_are_shared (r : Registry) (calls : List Call) :
    let s := (ofRegistry r).afterCalls calls
    let given := (ofRegistry r).allHanded calls
    (∀ id, (s.compatibility id).map (·.value) =
      ((ofRegistry s.registry).compatibility id).map (·.value)) ∧
    (∀ target draft, (s.pair target draft).map (·.value.content) =
      ((ofRegistry s.registry).pair target draft).map (·.value.content)) ∧
    OneEach (given.flatMap Handed.allFacts) ∧
    OneEach (given.filterMap Handed.pair?) ∧
    s.table.pairings.length = ((given.filterMap Handed.pair?).map (·.1)).dedup.length := by
  intro s given
  have htracks : s.Tracks given := (tracks_ofRegistry r).afterCalls calls
  refine ⟨?_, ?_, htracks.shares.facts.oneEach htracks.facts,
    htracks.shares.pairings.oneEach htracks.pairs, ?_⟩
  · exact fun id => htracks.sound.compatibility_eq PairingTable.sound_empty id
  · exact fun target draft => htracks.sound.pair_eq PairingTable.sound_empty target draft
  · have hperm : (s.table.pairings.map (·.1)).Perm
        ((given.filterMap Handed.pair?).map (·.1)).dedup := by
      rw [List.perm_ext_iff_of_nodup htracks.shares.pairings.keys (List.nodup_dedup _)]
      intro key
      rw [htracks.keys, List.mem_dedup]
    rw [← hperm.length_eq, List.length_map]

/-- A pair that is refused for a missing entry is made once the entry is there, and once only. -/
example :
    let a : Architecture :=
      ⟨"A", [.text], ⟨"models", "A"⟩, none, some ⟨.both, .identity 16 .none⟩⟩
    let calls : List Call := [.pair "A" "A", .change (.register a), .pair "A" "A",
      .compatibility "A", .change .freeze, .pair "A" "A"]
    ((ofRegistry .empty).allHanded calls).length = 3 ∧
      ((ofRegistry .empty).afterCalls calls).table.pairings.length = 1 := by
  decide

end Pairer

end ModelRegistry
