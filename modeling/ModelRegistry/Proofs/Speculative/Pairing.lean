import Mathlib.Logic.Basic
import ModelRegistry.Proofs.Architecture.Registry
import ModelRegistry.Proofs.Speculative.Layout
import ModelRegistry.Speculative.Pairing

/-!
# ModelRegistry.Proofs.Speculative.Pairing

Which architectures form a pair, said of what they declare. An architecture
`Offers` an adapter for a side if its role allows the side and the adapter is
valid; two ids form a pair if both offer adapters of one shared layout, and
otherwise `Refuses` names the first condition that is not met.

What a table of pairs has handed out is a matter of the registry alone
(`PairingTable.Sound`), so that remembering it does not change what is answered.
-/

namespace ModelRegistry

/-! ## Declared facts -/

/-- The role of an architecture; without a declaration it takes no part. -/
def Architecture.role (a : Architecture) : Role := (a.speculative.map (·.role)).getD .none

namespace Registry

/-- The architecture with this id declares a role that allows the side, and this adapter, which is
valid. -/
structure Offers (r : Registry) (id : String) (side : Side) (adapter : Adapter) : Prop where
  declared : ∃ a s, r.find? id = some a ∧ a.speculative = some s ∧ s.role.allows side = true ∧
    s.adapter = adapter
  valid : adapter.validate = .ok ()

/-- Why a registered architecture does not serve on a side: its role excludes the side, or else
its adapter is not valid, or the program stops at it. -/
inductive Bars (r : Registry) (id : String) (side : Side) : PairingError → Prop where
  | role {a : Architecture} : r.find? id = some a → a.role.allows side = false →
      Bars r id side (.roleExcluded id side a.role)
  | adapter {a : Architecture} {s : SpeculativeDeclaration} {reason : AdapterError} :
      r.find? id = some a → a.speculative = some s → s.role.allows side = true →
      s.adapter.validate = .error reason → (∀ halt, reason ≠ .halt halt) →
      Bars r id side (.invalidAdapter id reason)
  | halt {a : Architecture} {s : SpeculativeDeclaration} {reason : Halt} :
      r.find? id = some a → a.speculative = some s → s.role.allows side = true →
      s.adapter.validate = .error (.halt reason) → Bars r id side (.halt reason)

/-- The first condition of a pair that is not met, as the error that reports it. -/
inductive Refuses (r : Registry) (target draft : String) : PairingError → Prop where
  | targetUnregistered : r.contains target = false →
      Refuses r target draft (.registry (.unregisteredArchitecture target))
  | draftUnregistered : r.contains target = true → r.contains draft = false →
      Refuses r target draft (.registry (.unregisteredArchitecture draft))
  | target {e : PairingError} : r.contains draft = true → r.Bars target .target e →
      Refuses r target draft e
  | draft {adapter : Adapter} {e : PairingError} : r.Offers target .target adapter →
      r.Bars draft .draft e → Refuses r target draft e
  | layouts {x y : Adapter} : r.Offers target .target x → r.Offers draft .draft y →
      x.shared ≠ y.shared →
      Refuses r target draft (.layoutMismatch target draft x.shared y.shared)

/-- What the declarations of two ids come to. -/
def verdict (r : Registry) (target draft : String) : Except PairingError PairAdapter :=
  match r.resolve target, r.resolve draft with
  | .error e, _ => .error (.registry e)
  | .ok _, .error e => .error (.registry e)
  | .ok a, .ok b => PairAdapter.compose (.ofArchitecture a) (.ofArchitecture b)

end Registry

/-! ## One side -/

namespace SpeculativeFacts

variable {r : Registry} {id : String} {side : Side} {adapter : Adapter} {e : PairingError}
  {a : Architecture} {s : SpeculativeDeclaration} {facts : SpeculativeFacts}

@[simp] theorem not_allows_none (side : Side) : Role.none.allows side = false := by
  cases side <;> rfl

theorem role_ne_none_of_allows {role : Role} (h : role.allows side = true) : role ≠ .none := by
  intro hnone
  rw [hnone, not_allows_none] at h
  cases h

theorem role_of_speculative (h : a.speculative = some s) : a.role = s.role := by
  rw [Architecture.role, h]
  rfl

/-- An architecture whose role allows a side has declared it. -/
theorem exists_speculative_of_allows (h : a.role.allows side = true) :
    ∃ s, a.speculative = some s ∧ s.role.allows side = true := by
  cases hs : a.speculative with
  | none =>
      rw [Architecture.role, hs] at h
      exact absurd h (by simp)
  | some s =>
      rw [role_of_speculative hs] at h
      exact ⟨s, rfl, h⟩

theorem adapterFor_of_not_allows (h : a.role.allows side = false) :
    (ofArchitecture a).adapterFor side = .error (.roleExcluded a.id side a.role) := by
  cases hs : a.speculative with
  | none => simp [ofArchitecture, adapterFor, Architecture.role, hs]
  | some s =>
      rw [role_of_speculative hs] at h ⊢
      by_cases hnone : s.role = .none
      · simp [ofArchitecture, adapterFor, hs, hnone]
      · simp [ofArchitecture, adapterFor, hs, hnone, h]

theorem ofAdapter_of_ne_halt {reason : AdapterError} (h : ∀ halt, reason ≠ .halt halt) :
    PairingError.ofAdapter id reason = .invalidAdapter id reason := by
  cases reason with
  | halt halt => exact absurd rfl (h halt)
  | _ => rfl

theorem adapterFor_of_allows (hs : a.speculative = some s) (h : s.role.allows side = true) :
    (ofArchitecture a).adapterFor side =
      match s.adapter.validate with
      | .ok () => .ok s.adapter
      | .error reason => .error (.ofAdapter a.id reason) := by
  have hrole := role_ne_none_of_allows h
  cases hvalid : s.adapter.validate with
  | ok u => simp [ofArchitecture, adapterFor, hs, hrole, h, hvalid]
  | error reason => simp [ofArchitecture, adapterFor, hs, hrole, h, hvalid]

/-- An adapter that is used on a side is the one of the facts. -/
theorem adapter_of_adapterFor (h : facts.adapterFor side = .ok adapter) :
    facts.adapter = some adapter := by
  rw [adapterFor] at h
  cases hadapter : facts.adapter with
  | none => simp [hadapter] at h
  | some x =>
      simp only [hadapter] at h
      split at h
      · cases h
      · cases hvalid : x.validate with
        | error reason => simp [hvalid] at h
        | ok u =>
            simp only [hvalid] at h
            rw [Except.ok.inj h]

theorem adapterFor_eq_ok_iff (ha : r.find? id = some a) :
    (ofArchitecture a).adapterFor side = .ok adapter ↔ r.Offers id side adapter := by
  constructor
  · intro h
    cases hallows : a.role.allows side with
    | false => simp [adapterFor_of_not_allows hallows] at h
    | true =>
        obtain ⟨s, hs, hside⟩ := exists_speculative_of_allows hallows
        rw [adapterFor_of_allows hs hside] at h
        cases hvalid : s.adapter.validate with
        | error reason => simp [hvalid] at h
        | ok u =>
            simp only [hvalid] at h
            obtain rfl := Except.ok.inj h
            exact ⟨⟨a, s, ha, hs, hside, rfl⟩, hvalid⟩
  · rintro ⟨⟨b, s, hb, hs, hside, rfl⟩, hvalid⟩
    obtain rfl := Option.some.inj (ha.symm.trans hb)
    rw [adapterFor_of_allows hs hside, hvalid]

/-- An adapter that is not valid bars its architecture from the side. -/
theorem bars_of_validate {reason : AdapterError} (ha : r.find? id = some a)
    (hs : a.speculative = some s) (hside : s.role.allows side = true)
    (hvalid : s.adapter.validate = .error reason) : r.Bars id side (.ofAdapter id reason) := by
  cases reason with
  | halt halt => exact .halt ha hs hside hvalid
  | _ => exact .adapter ha hs hside hvalid fun _ h => by cases h

theorem adapterFor_eq_error_iff (ha : r.find? id = some a) :
    (ofArchitecture a).adapterFor side = .error e ↔ r.Bars id side e := by
  obtain rfl := Registry.id_of_find? ha
  constructor
  · intro h
    cases hallows : a.role.allows side with
    | false =>
        rw [adapterFor_of_not_allows hallows] at h
        obtain rfl := Except.error.inj h
        exact .role ha hallows
    | true =>
        obtain ⟨s, hs, hside⟩ := exists_speculative_of_allows hallows
        rw [adapterFor_of_allows hs hside] at h
        cases hvalid : s.adapter.validate with
        | ok u => simp [hvalid] at h
        | error reason =>
            simp only [hvalid] at h
            obtain rfl := Except.error.inj h
            exact bars_of_validate ha hs hside hvalid
  · intro h
    cases h with
    | role hb hallows =>
        obtain rfl := Option.some.inj (ha.symm.trans hb)
        exact adapterFor_of_not_allows hallows
    | adapter hb hs hside hvalid hne =>
        obtain rfl := Option.some.inj (ha.symm.trans hb)
        rw [adapterFor_of_allows hs hside, hvalid]
        exact congrArg Except.error (ofAdapter_of_ne_halt hne)
    | halt hb hs hside hvalid =>
        obtain rfl := Option.some.inj (ha.symm.trans hb)
        rw [adapterFor_of_allows hs hside, hvalid]
        rfl

end SpeculativeFacts

/-! ## Both sides -/

namespace PairAdapter

variable {target draft : SpeculativeFacts} {adapter : PairAdapter} {e : PairingError}

theorem compose_eq_ok_iff :
    compose target draft = .ok adapter ↔
      target.adapterFor .target = .ok adapter.target ∧ draft.adapterFor .draft = .ok adapter.draft ∧
      adapter.target.shared = adapter.shared ∧ adapter.draft.shared = adapter.shared := by
  obtain ⟨x, y, shared⟩ := adapter
  rw [compose]
  cases htarget : target.adapterFor .target with
  | error e => simp [bind, Except.bind]
  | ok x' =>
      cases hdraft : draft.adapterFor .draft with
      | error e => simp [bind, Except.bind]
      | ok y' =>
          by_cases hshared : x'.shared = y'.shared
          · simp only [bind, Except.bind, hshared, if_true, pure, Except.pure, Except.ok.injEq,
              mk.injEq]
            grind
          · simp only [bind, Except.bind, hshared, if_false, throw, throwThe, MonadExceptOf.throw,
              Except.ok.injEq, reduceCtorEq, false_iff]
            grind

theorem compose_eq_error_iff :
    compose target draft = .error e ↔
      target.adapterFor .target = .error e ∨
      (∃ x, target.adapterFor .target = .ok x ∧ draft.adapterFor .draft = .error e) ∨
      ∃ x y, target.adapterFor .target = .ok x ∧ draft.adapterFor .draft = .ok y ∧
        x.shared ≠ y.shared ∧
        e = .layoutMismatch target.architecture draft.architecture x.shared y.shared := by
  rw [compose]
  cases htarget : target.adapterFor .target with
  | error e => simp [bind, Except.bind]
  | ok x =>
      cases hdraft : draft.adapterFor .draft with
      | error e => simp [bind, Except.bind]
      | ok y =>
          by_cases hshared : x.shared = y.shared
          · simp [bind, Except.bind, hshared, pure, Except.pure]
          · simp [bind, Except.bind, hshared, throw, throwThe, MonadExceptOf.throw, eq_comm]

end PairAdapter

namespace Registry

variable {r : Registry} {id target draft : String} {side : Side} {adapter : Adapter}
  {e : PairingError}

theorem Offers.contains (h : r.Offers id side adapter) : r.contains id = true := by
  obtain ⟨a, s, ha, -⟩ := h.declared
  exact contains_of_find? ha

theorem Bars.contains (h : r.Bars id side e) : r.contains id = true := by
  cases h with
  | role ha _ => exact contains_of_find? ha
  | adapter ha _ _ _ _ => exact contains_of_find? ha
  | halt ha _ _ _ => exact contains_of_find? ha

/-- The architecture with this id declares an adapter with a range whose end is no word. -/
def Oversteps (r : Registry) (id : String) : Prop :=
  ∃ a s start length, r.find? id = some a ∧ a.speculative = some s ∧
    .narrow start length ∈ s.adapter.steps ∧ Step.Overflows start length

theorem Bars.oversteps {reason : Halt} (h : r.Bars id side (.halt reason)) : r.Oversteps id := by
  cases h with
  | @halt a s _ ha hs _ hvalid =>
      obtain ⟨index, e, herror, hstop⟩ :=
        Adapter.stopsAt_of_produced (Adapter.produced_of_validate_halt hvalid)
      cases e with
      | fault fault => cases herror
      | halt halt =>
          obtain ⟨before, after, start, length, reached, -, -, hsteps, -, hover⟩ :=
            hstop.overflows
          exact ⟨a, s, start, length, ha, hs, by simp [hsteps], hover⟩

/-- The verdict on two registered ids is what their facts compose to. -/
theorem verdict_of_find? {a b : Architecture} (ha : r.find? target = some a)
    (hb : r.find? draft = some b) :
    r.verdict target draft = PairAdapter.compose (.ofArchitecture a) (.ofArchitecture b) := by
  rw [verdict, resolve_of_find? ha, resolve_of_find? hb]

theorem verdict_of_target_unregistered (h : r.contains target = false) :
    r.verdict target draft = .error (.registry (.unregisteredArchitecture target)) := by
  rw [verdict, resolve_of_contains_eq_false h]

theorem verdict_of_draft_unregistered (h : r.contains target = true)
    (h' : r.contains draft = false) :
    r.verdict target draft = .error (.registry (.unregisteredArchitecture draft)) := by
  obtain ⟨a, ha⟩ := exists_find?_of_contains h
  rw [verdict, resolve_of_find? ha, resolve_of_contains_eq_false h']

/-- Two ids form a pair exactly if each offers an adapter for its side, of one shared layout. -/
theorem verdict_eq_ok_iff {adapter : PairAdapter} :
    r.verdict target draft = .ok adapter ↔
      r.Offers target .target adapter.target ∧ r.Offers draft .draft adapter.draft ∧
      adapter.target.shared = adapter.shared ∧ adapter.draft.shared = adapter.shared := by
  constructor
  · intro h
    cases htarget : r.contains target with
    | false => simp [verdict_of_target_unregistered htarget] at h
    | true =>
        cases hdraft : r.contains draft with
        | false => simp [verdict_of_draft_unregistered htarget hdraft] at h
        | true =>
            obtain ⟨a, ha⟩ := exists_find?_of_contains htarget
            obtain ⟨b, hb⟩ := exists_find?_of_contains hdraft
            rwa [verdict_of_find? ha hb, PairAdapter.compose_eq_ok_iff,
              SpeculativeFacts.adapterFor_eq_ok_iff ha,
              SpeculativeFacts.adapterFor_eq_ok_iff hb] at h
  · intro h
    obtain ⟨a, ha⟩ := exists_find?_of_contains h.1.contains
    obtain ⟨b, hb⟩ := exists_find?_of_contains h.2.1.contains
    rwa [verdict_of_find? ha hb, PairAdapter.compose_eq_ok_iff,
      SpeculativeFacts.adapterFor_eq_ok_iff ha, SpeculativeFacts.adapterFor_eq_ok_iff hb]

/-- A refusal of two registered ids is about the target, or else the draft, or else the layouts. -/
theorem compose_eq_error_iff {a b : Architecture} (ha : r.find? target = some a)
    (hb : r.find? draft = some b) :
    PairAdapter.compose (.ofArchitecture a) (.ofArchitecture b) = .error e ↔
      r.Bars target .target e ∨
      (∃ x, r.Offers target .target x ∧ r.Bars draft .draft e) ∨
      ∃ x y, r.Offers target .target x ∧ r.Offers draft .draft y ∧ x.shared ≠ y.shared ∧
        e = .layoutMismatch target draft x.shared y.shared := by
  have htarget : (SpeculativeFacts.ofArchitecture a).architecture = target := by
    rw [← id_of_find? ha, SpeculativeFacts.ofArchitecture]
    cases a.speculative <;> rfl
  have hdraft : (SpeculativeFacts.ofArchitecture b).architecture = draft := by
    rw [← id_of_find? hb, SpeculativeFacts.ofArchitecture]
    cases b.speculative <;> rfl
  simp only [PairAdapter.compose_eq_error_iff, SpeculativeFacts.adapterFor_eq_error_iff ha,
    SpeculativeFacts.adapterFor_eq_error_iff hb, SpeculativeFacts.adapterFor_eq_ok_iff ha,
    SpeculativeFacts.adapterFor_eq_ok_iff hb, htarget, hdraft]

/-- The error is that of the first condition that is not met. -/
theorem verdict_eq_error_iff : r.verdict target draft = .error e ↔ r.Refuses target draft e := by
  constructor
  · intro h
    cases htarget : r.contains target with
    | false =>
        rw [verdict_of_target_unregistered htarget] at h
        obtain rfl := Except.error.inj h
        exact .targetUnregistered htarget
    | true =>
        cases hdraft : r.contains draft with
        | false =>
            rw [verdict_of_draft_unregistered htarget hdraft] at h
            obtain rfl := Except.error.inj h
            exact .draftUnregistered htarget hdraft
        | true =>
            obtain ⟨a, ha⟩ := exists_find?_of_contains htarget
            obtain ⟨b, hb⟩ := exists_find?_of_contains hdraft
            rw [verdict_of_find? ha hb, compose_eq_error_iff ha hb] at h
            rcases h with hbars | ⟨x, hx, hbars⟩ | ⟨x, y, hx, hy, hne, rfl⟩
            · exact .target hdraft hbars
            · exact .draft hx hbars
            · exact .layouts hx hy hne
  · intro h
    -- All but the first two conditions are about two registered architectures.
    have hcompose : ∀ {a b}, r.find? target = some a → r.find? draft = some b →
        PairAdapter.compose (.ofArchitecture a) (.ofArchitecture b) = .error e →
        r.verdict target draft = .error e :=
      fun ha hb he => (verdict_of_find? ha hb).trans he
    cases h with
    | targetUnregistered h => exact verdict_of_target_unregistered h
    | draftUnregistered h h' => exact verdict_of_draft_unregistered h h'
    | target hdraft hbars =>
        obtain ⟨a, ha⟩ := exists_find?_of_contains hbars.contains
        obtain ⟨b, hb⟩ := exists_find?_of_contains hdraft
        exact hcompose ha hb ((compose_eq_error_iff ha hb).mpr (.inl hbars))
    | draft hx hbars =>
        obtain ⟨a, ha⟩ := exists_find?_of_contains hx.contains
        obtain ⟨b, hb⟩ := exists_find?_of_contains hbars.contains
        exact hcompose ha hb ((compose_eq_error_iff ha hb).mpr (.inr (.inl ⟨_, hx, hbars⟩)))
    | layouts hx hy hne =>
        obtain ⟨a, ha⟩ := exists_find?_of_contains hx.contains
        obtain ⟨b, hb⟩ := exists_find?_of_contains hy.contains
        exact hcompose ha hb
          ((compose_eq_error_iff ha hb).mpr (.inr (.inr ⟨_, _, hx, hy, hne, rfl⟩)))

/-- Where a pair is refused because the program stops, one of the two declares a range whose end is
no word. -/
theorem Refuses.oversteps {reason : Halt} (h : r.Refuses target draft (.halt reason)) :
    r.Oversteps target ∨ r.Oversteps draft := by
  cases h with
  | target _ hbars => exact .inl hbars.oversteps
  | draft _ hbars => exact .inr hbars.oversteps

end Registry

/-! ## Answers -/

/-- The facts are those that the registry has under this id. -/
def Registry.Declares (r : Registry) (id : String) (facts : SpeculativeFacts) : Prop :=
  ∃ a, r.find? id = some a ∧ facts = .ofArchitecture a

/-- The pair is what the declarations of the two ids come to. -/
structure Registry.Pairs (r : Registry) (target draft : String) (p : Pairing) : Prop where
  targetFacts : r.Declares target p.target.value
  draftFacts : r.Declares draft p.draft.value
  composed : r.verdict target draft = .ok p.adapter

/-- An answer about two ids is the verdict of the registry: the pair, or the error. -/
def Registry.Answers (r : Registry) (target draft : String) :
    Except PairingError (Shared Pairing) → Prop
  | .ok p => r.Pairs target draft p.value
  | .error e => r.verdict target draft = .error e

/-- The declarations of two ids determine the answer about them. It is an error exactly if a
condition is not met, and then that of the first such condition; it is a pair exactly if both ids
offer adapters of one shared layout. The adapters of the pair are the ones offered, the shared
layout is what both produce, and either takes tensors of its side to the shared width. The program
stops only at a declared range whose end is no word. -/
structure Registry.Decides (r : Registry) (target draft : String)
    (answer : Except PairingError (Shared Pairing)) : Prop where
  error_iff : ∀ e, answer = .error e ↔ r.Refuses target draft e
  ok_iff : (∃ p, answer = .ok p) ↔
    ∃ x y, r.Offers target .target x ∧ r.Offers draft .draft y ∧ x.shared = y.shared
  offers : ∀ p, answer = .ok p →
    r.Offers target .target p.value.adapter.target ∧ r.Offers draft .draft p.value.adapter.draft
  produced : ∀ p, answer = .ok p → ∀ side,
    (p.value.adapter.side side).produced = .ok p.value.adapter.shared
  translates : ∀ p, answer = .ok p → ∀ side (t : HiddenStates) (leading : List Nat),
    t.shape = leading ++ [(p.value.adapter.side side).nativeWidth.toNat] →
    ∃ out, p.value.adapter.translate side t = .ok out ∧
      out.shape = leading ++ [p.value.adapter.shared.width.toNat]
  halts : ∀ reason, answer = .error (.halt reason) → r.Oversteps target ∨ r.Oversteps draft

theorem Registry.Pairs.produced {r : Registry} {target draft : String} {p : Pairing}
    (h : r.Pairs target draft p) (side : Side) :
    (p.adapter.side side).produced = .ok p.adapter.shared := by
  obtain ⟨htarget, hdraft, hsharedTarget, hsharedDraft⟩ := verdict_eq_ok_iff.mp h.composed
  cases side with
  | target => exact hsharedTarget ▸ Adapter.validate_eq_ok_iff.mp htarget.valid
  | draft => exact hsharedDraft ▸ Adapter.validate_eq_ok_iff.mp hdraft.valid

/-- The adapters of a pair are those of the facts on either side. -/
theorem Registry.Pairs.adapters {r : Registry} {target draft : String} {p : Pairing}
    (h : r.Pairs target draft p) :
    p.target.value.adapter = some p.adapter.target ∧
      p.draft.value.adapter = some p.adapter.draft := by
  obtain ⟨a, ha, htarget⟩ := h.targetFacts
  obtain ⟨b, hb, hdraft⟩ := h.draftFacts
  have hcomposed := h.composed
  rw [verdict_of_find? ha hb, ← htarget, ← hdraft, PairAdapter.compose_eq_ok_iff] at hcomposed
  exact ⟨SpeculativeFacts.adapter_of_adapterFor hcomposed.1,
    SpeculativeFacts.adapter_of_adapterFor hcomposed.2.1⟩

theorem Registry.Answers.decides {r : Registry} {target draft : String}
    {answer : Except PairingError (Shared Pairing)} (h : r.Answers target draft answer) :
    r.Decides target draft answer := by
  have hverdict : (answer.map fun p => p.value.adapter) = r.verdict target draft := by
    cases answer with
    | ok p => exact h.composed.symm
    | error e => exact h.symm
  have hpairs : ∀ p, answer = .ok p → r.Pairs target draft p.value := by
    intro p hp
    rw [hp] at h
    exact h
  refine ⟨?_, ⟨?_, ?_⟩, ?_, fun p hp => (hpairs p hp).produced, ?_, ?_⟩
  · intro e
    rw [← verdict_eq_error_iff, ← hverdict]
    cases answer <;> simp [Except.map]
  · rintro ⟨p, hp⟩
    obtain ⟨htarget, hdraft, hsharedTarget, hsharedDraft⟩ :=
      verdict_eq_ok_iff.mp (hpairs p hp).composed
    exact ⟨_, _, htarget, hdraft, hsharedTarget.trans hsharedDraft.symm⟩
  · rintro ⟨x, y, hx, hy, hshared⟩
    have hok : r.verdict target draft = .ok ⟨x, y, x.shared⟩ :=
      verdict_eq_ok_iff.mpr ⟨hx, hy, rfl, hshared.symm⟩
    rw [← hverdict] at hok
    cases answer with
    | ok p => exact ⟨p, rfl⟩
    | error e => simp [Except.map] at hok
  · intro p hp
    obtain ⟨htarget, hdraft, -⟩ := verdict_eq_ok_iff.mp (hpairs p hp).composed
    exact ⟨htarget, hdraft⟩
  · intro p hp side t leading ht
    obtain ⟨out, hout, -, hshape, -⟩ :=
      Adapter.translate_of_produced ((hpairs p hp).produced side) ht
    exact ⟨out, hout, hshape⟩
  · intro reason hhalt
    rw [hhalt] at h
    exact (verdict_eq_error_iff.mp h).oversteps

/-! ## Tables of pairs -/

namespace PairingTable

/-- Whatever the table has handed out is what the registry declares. -/
structure Sound (r : Registry) (t : PairingTable) : Prop where
  facts : ∀ {id facts}, t.facts.lookup id = some facts → r.Declares id facts.value
  pairings : ∀ {target draft p}, t.pairings.lookup (target, draft) = some p →
    r.Pairs target draft p.value

variable {r : Registry} {t : PairingTable} {id target draft : String}

theorem sound_empty : Sound r empty where
  facts h := by simp [empty] at h
  pairings h := by simp [empty] at h

/-- The facts of an id are remembered or looked up, which comes to the same. -/
theorem Sound.compatibility (h : t.Sound r) (id : String) :
    (t.compatibility r id).2.Sound r ∧
      match (t.compatibility r id).1 with
      | .ok facts => r.Declares id facts.value
      | .error e => r.contains id = false ∧ e = .unregisteredArchitecture id := by
  rw [PairingTable.compatibility]
  cases hfacts : t.facts.lookup id with
  | some facts => exact ⟨h, h.facts hfacts⟩
  | none =>
      cases hid : r.contains id with
      | false =>
          rw [Registry.resolve_of_contains_eq_false hid]
          exact ⟨h, rfl, rfl⟩
      | true =>
          obtain ⟨a, ha⟩ := Registry.exists_find?_of_contains hid
          rw [Registry.resolve_of_find? ha]
          refine ⟨⟨?_, h.pairings⟩, a, ha, rfl⟩
          intro other facts hother
          rw [Table.lookup_put] at hother
          split at hother
          · next hsame =>
              obtain rfl := Option.some.inj hother
              exact ⟨a, hsame ▸ ha, rfl⟩
          · exact h.facts hother

/-- The pairs are looked up with the equality of pairs of ids, the table puts them with the
decision of it; the two are one. -/
theorem lookup_put_pair (key other : String × String) (p : Shared Pairing)
    (pairings : Table (String × String) (Shared Pairing)) :
    (pairings.put key p).lookup other = if other = key then some p else pairings.lookup other := by
  rw [lawful_beq_subsingleton instBEqProd instBEqOfDecidableEq]
  exact Table.lookup_put key other p pairings

theorem Sound.put (h : t.Sound r) {p : Shared Pairing} (hp : r.Pairs target draft p.value) :
    Sound r { t with pairings := t.pairings.put (target, draft) p } where
  facts := h.facts
  pairings hother := by
    simp only [lookup_put_pair] at hother
    split at hother
    · next hsame =>
        obtain ⟨rfl, rfl⟩ := Prod.mk.inj hsame
        exact Option.some.inj hother ▸ hp
    · exact h.pairings hother

/-- A pair is remembered or composed, which comes to the same: the verdict of the registry. -/
theorem Sound.pair (h : t.Sound r) (target draft : String) :
    (t.pair r target draft).2.Sound r ∧ r.Answers target draft (t.pair r target draft).1 := by
  rw [PairingTable.pair]
  cases hpairing : t.pairings.lookup (target, draft) with
  | some p => exact ⟨h, h.pairings hpairing⟩
  | none =>
      obtain ⟨htarget, hfacts⟩ := h.compatibility target
      dsimp only
      generalize t.compatibility r target = looked at htarget hfacts ⊢
      match looked with
      | (.error e, t') =>
          obtain ⟨hunregistered, rfl⟩ := hfacts
          exact ⟨htarget, Registry.verdict_of_target_unregistered hunregistered⟩
      | (.ok targetFacts, t') =>
          obtain ⟨hdraft, hfacts'⟩ := htarget.compatibility draft
          obtain ⟨a, ha, htargetFacts⟩ := hfacts
          dsimp only at htarget hdraft hfacts' ⊢
          generalize t'.compatibility r draft = looked at hdraft hfacts' ⊢
          match looked with
          | (.error e, t'') =>
              obtain ⟨hunregistered, rfl⟩ := hfacts'
              exact ⟨hdraft, Registry.verdict_of_draft_unregistered
                (Registry.contains_of_find? ha) hunregistered⟩
          | (.ok draftFacts, t'') =>
              obtain ⟨b, hb, hdraftFacts⟩ := hfacts'
              have hverdict := Registry.verdict_of_find? ha hb
              rw [← htargetFacts, ← hdraftFacts] at hverdict
              cases hcompose : PairAdapter.compose targetFacts.value draftFacts.value with
              | error e =>
                  simp only [hcompose]
                  exact ⟨hdraft, hverdict.trans hcompose⟩
              | ok adapter =>
                  have hpairs : r.Pairs target draft ⟨targetFacts, draftFacts, adapter⟩ :=
                    ⟨⟨a, ha, htargetFacts⟩, ⟨b, hb, hdraftFacts⟩, hverdict.trans hcompose⟩
                  simp only [hcompose]
                  exact ⟨hdraft.put hpairs, hpairs⟩

end PairingTable

end ModelRegistry
