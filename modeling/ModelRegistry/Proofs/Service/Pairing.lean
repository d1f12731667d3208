import ModelRegistry.Proofs.Service.Setup
import ModelRegistry.Proofs.Speculative.Pairing

/-!
# ModelRegistry.Proofs.Service.Pairing

The pairs that a service hands out. Whatever a service does it keeps its registry,
and all that it remembers of pairs is what that registry declares
(`Service.Paired`); so what it answers about two architectures is the same at
start-up and at any later time. In a service that was started no adapter of an
entry that takes part is invalid, which leaves two reasons to refuse a pair.
-/

namespace ModelRegistry

/-! ## Remembered pairs -/

namespace Service

/-- The service has this registry, and what it remembers of pairs is what the registry declares. -/
structure Paired (r : Registry) (s : Service) : Prop where
  registry : s.registry = r
  pairings : s.pairings.Sound r

variable {s s' : Service} {r : Registry} {trees : Files → Prop}

namespace Paired

theorem complete (h : s.Paired r) (files : Files) (i flight : Nat) (locator : String) :
    ((complete files i flight locator).run s).2.Paired r := by
  have hasks : Resolver.Asks (fun _ => True) s.resolver
      ((Service.complete files i flight locator).run s).2.resolver :=
    asks_complete trivial s i flight locator
  rw [complete_run] at hasks ⊢
  exact ⟨hasks.registry.trans h.registry, h.pairings⟩

theorem begin (h : s.Paired r) (files : Files) (locator : String) :
    ((begin files locator).run s).2.Paired r := by
  have hrequested : (s.requested locator).Paired r := { h with }
  rw [begin_run]
  split
  · exact hrequested.complete files _ _ locator
  · exact hrequested

theorem settle (h : s.Paired r) (files : Files) (p : Pending) :
    ((settle files p).run s).2.Paired r := by
  cases p with
  | waiting i flight locator => exact h.complete files i flight locator
  | done outcome => exact h

theorem abandon (h : s.Paired r) (p : Pending) : ((abandon p).run s).2.Paired r := by
  cases p with
  | waiting i flight locator => exact { h with }
  | done outcome => exact h

theorem compatibility (h : s.Paired r) (id : String) :
    ((compatibility id).run s).2.Paired r := by
  obtain ⟨rfl, hpairings⟩ := h
  exact ⟨rfl, (hpairings.compatibility id).1⟩

theorem pair (h : s.Paired r) (target draft : String) :
    ((pair target draft).run s).2.Paired r := by
  obtain ⟨rfl, hpairings⟩ := h
  exact ⟨rfl, (hpairings.pair target draft).1⟩

/-- What is answered about two ids is what the registry declares. -/
theorem answers (h : s.Paired r) (target draft : String) :
    r.Answers target draft ((Service.pair target draft).run s).1 := by
  obtain ⟨rfl, hpairings⟩ := h
  exact (hpairings.pair target draft).2

theorem step (h : s.Paired r) (hstep : Step trees s s') : s'.Paired r := by
  cases hstep with
  | resolve hfiles c =>
      exact ⟨(Resolver.asks_afterResolve hfiles c).registry.trans h.registry, h.pairings⟩
  | begin hfiles locator => exact h.begin _ locator
  | wait => exact { h with }
  | complete hfiles hwaits => exact h.complete ..
  | abandon request => exact h.abandon request
  | compatibility id => exact h.compatibility id
  | pair target draft => exact h.pair target draft

/-- A service stays so while it runs. -/
theorem reaches (h : s.Paired r) (hreaches : Reaches trees s s') : s'.Paired r := by
  induction hreaches with
  | start => exact h
  | step _ hstep ih => exact ih.step hstep

end Paired

end Service

/-! ## Started services -/

namespace Setup

variable {s : Setup} {files : Files} {service : Service} {id : String} {side : Side}
  {e : PairingError}

theorem paired_of_start (h : s.start files = .ok service) : service.Paired service.registry := by
  obtain ⟨-, report, -, -, rfl⟩ := start_eq_ok_iff.mp h
  exact ⟨rfl, PairingTable.sound_empty⟩

theorem Starts.checkSpeculative (h : s.Starts files service) {a : Architecture}
    (ha : service.registry.find? id = some a) : Verifier.checkSpeculative a = .ok [] := by
  obtain ⟨before, after, hsplit⟩ := Registry.entries_of_find? ha
  exact (Verifier.verifyEntry_eq_nil_iff.mp (Verifier.verifyEntry_of_isOk h.verified h.clean hsplit)).2.2

/-- In a service that was started an adapter is valid if it can be used at all. -/
theorem Starts.validate (h : s.Starts files service) {a : Architecture} {d : SpeculativeDeclaration}
    (ha : service.registry.find? id = some a) (hd : a.speculative = some d)
    (hallows : d.role.allows side = true) : d.adapter.validate = .ok () :=
  (Verifier.checkSpeculative_eq_nil_iff.mp (h.checkSpeculative ha) d hd).resolve_left
    (SpeculativeFacts.role_ne_none_of_allows hallows)

/-- In a service that was started only its role keeps an entry from a side. -/
theorem Starts.role_of_bars (h : s.Starts files service) (hbars : service.registry.Bars id side e) :
    ∃ role, e = .roleExcluded id side role := by
  cases hbars with
  | role ha hallows => exact ⟨_, rfl⟩
  | adapter ha hs hallows hinvalid _ =>
      rw [h.validate ha hs hallows] at hinvalid
      cases hinvalid
  | halt ha hs hallows hhalts =>
      rw [h.validate ha hs hallows] at hhalts
      cases hhalts

/-- Two registered ids are refused for a role, the target's before the draft's, or else for their
layouts. -/
theorem Starts.reason (h : s.Starts files service) {target draft : String}
    (htarget : service.registry.contains target = true)
    (hdraft : service.registry.contains draft = true)
    (hrefuses : service.registry.Refuses target draft e) :
    (∃ role, e = .roleExcluded target .target role) ∨
      (∃ role, e = .roleExcluded draft .draft role) ∨
      ∃ x y, e = .layoutMismatch target draft x y := by
  cases hrefuses with
  | targetUnregistered hnone => rw [htarget] at hnone; cases hnone
  | draftUnregistered _ hnone => rw [hdraft] at hnone; cases hnone
  | target _ hbars => exact .inl (h.role_of_bars hbars)
  | draft _ hbars => exact .inr (.inl (h.role_of_bars hbars))
  | layouts _ _ _ => exact .inr (.inr ⟨_, _, rfl⟩)

/-- **A pair is what the two architectures declare**, whatever else is registered: a table that has
handed out nothing answers by the declarations alone (`Registry.Decides`). A service answers just
so from its start on, whatever it does in between; and there an id that is registered is refused
for its role, or else the two for their layouts, and for no other reason. -/
theorem pairs_as_declared :
    (∀ (r : Registry) (target draft : String),
      r.Decides target draft (PairingTable.empty.pair r target draft).1) ∧
    ∀ (s : Setup) (files : Files) (service : Service), s.start files = .ok service →
      ∀ (trees : Files → Prop) (later : Service), service.Reaches trees later →
      ∀ target draft : String, service.registry.contains target = true →
        service.registry.contains draft = true →
        service.registry.Decides target draft ((Service.pair target draft).run later).1 ∧
        ∀ e, ((Service.pair target draft).run later).1 = .error e →
          (∃ role, e = .roleExcluded target .target role) ∨
          (∃ role, e = .roleExcluded draft .draft role) ∨
          ∃ x y, e = .layoutMismatch target draft x y := by
  constructor
  · intro r target draft
    exact (PairingTable.sound_empty.pair target draft).2.decides
  · intro s files service hstart trees later hreaches target draft htarget hdraft
    have hpaired : later.Paired service.registry := (paired_of_start hstart).reaches hreaches
    have hdecides := (hpaired.answers target draft).decides
    refine ⟨hdecides, ?_⟩
    intro e he
    exact (starts_of_start hstart).reason htarget hdraft ((hdecides.error_iff e).mp he)

/-- A configuration class that reads nothing but the hidden size. -/
def sizedClass : ConfigClass :=
  (ConfigClass.empty "SizedConfig").withField (.mandatory "hidden_size" .integer)

/-- A verifier of width 16, and a draft that stands for three layers of that width. -/
def sized : Setup where
  declarations := [
    ⟨"WideForCausalLM", [.text], Fixture.reference "Wide", none,
      some ⟨.verifyCapable, .identity 16 .none⟩⟩,
    ⟨"DraftForCausalLM", [.text], Fixture.reference "Draft", none,
      some ⟨.draftCapable, 48, .none, [.chunkMean 3], 16, .none⟩⟩]
  mapping := .ofList [("WideForCausalLM", sizedClass), ("DraftForCausalLM", sizedClass)]
  source := .empty
  catalog := Fixture.catalog ["Wide", "Draft"]
  fetcher := .memory [] false

/-- The two form a pair, and the draft, which verifies nothing, is refused as a target. -/
theorem wide_pairs_with_draft :
    ∃ service p out, sized.start .empty = .ok service ∧
      ((Service.pair "WideForCausalLM" "DraftForCausalLM").run service).1 = .ok p ∧
      p.value.adapter.translate .draft (.single ⟨[2, 48], Array.replicate 96 0⟩) = .ok out ∧
      out.shape = [2, 16] ∧
      service.registry.Refuses "DraftForCausalLM" "WideForCausalLM"
        (.roleExcluded "DraftForCausalLM" .target .draftCapable) := by
  obtain ⟨service, p, hstart, hwide, hdraft, hp, hadapter, hshared, he⟩ : ∃ service p,
      sized.start .empty = .ok service ∧
      service.registry.contains "WideForCausalLM" = true ∧
      service.registry.contains "DraftForCausalLM" = true ∧
      ((Service.pair "WideForCausalLM" "DraftForCausalLM").run service).1 = .ok p ∧
      p.value.adapter.draft = ⟨48, .none, [.chunkMean 3], 16, .none⟩ ∧
      p.value.adapter.shared = ⟨16, .none⟩ ∧
      ((Service.pair "DraftForCausalLM" "WideForCausalLM").run service).1 =
        .error (.roleExcluded "DraftForCausalLM" .target .draftCapable) :=
    ⟨_, _, rfl, rfl, rfl, rfl, rfl, rfl, rfl⟩
  have hanswers := pairs_as_declared.2 sized .empty service hstart (fun _ => True) service .start
  obtain ⟨hpair, -⟩ := hanswers _ _ hwide hdraft
  obtain ⟨hrefused, -⟩ := hanswers _ _ hdraft hwide
  have hshape : HiddenStates.shape (.single ⟨[2, 48], Array.replicate 96 0⟩) =
      [2] ++ [(p.value.adapter.side .draft).nativeWidth.toNat] := by
    rw [PairAdapter.side, hadapter]
    rfl
  obtain ⟨out, hout, hwidth⟩ := hpair.translates p hp .draft _ [2] hshape
  rw [hshared] at hwidth
  exact ⟨service, p, out, hstart, hp, hout, hwidth, (hrefused.error_iff _).mp he⟩

end Setup

end ModelRegistry
