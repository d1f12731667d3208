import ModelRegistry.Proofs.Coalescing.Runs
import ModelRegistry.Proofs.Service.Preparation

/-!
# ModelRegistry.Proofs.Service.Runs

Runs of a service. Everything that a service can be asked for comes down to a few
steps (`Service.Step`), which different requests take in any order. No step
changes what was registered, what is mapped or where checkpoints come from;
`Service.Follows` says so of a whole run, together with what requests can rely on
when they join a flight. `Service.UnderWay` keeps track of the requests that were
taken up, and shows that whole operations are runs.
-/

namespace ModelRegistry

namespace Service

variable {s s' : Service} {trees : Files → Prop} {files : Files} {i flight : Nat}
  {locator : String}

/-! ## Steps -/

/-- What a service does next, in one of some file trees: it resolves a checkpoint, takes a request
up, waits, completes or drops a request that waits, or looks into its pairings. -/
inductive Step (trees : Files → Prop) (s : Service) : Service → Prop where
  | resolve {files : Files} (hfiles : trees files) (c : Checkpoint) :
      Step trees s { s with resolver := s.resolver.afterResolve files c }
  | begin {files : Files} (hfiles : trees files) (locator : String) :
      Step trees s ((begin files locator).run s).2
  | wait : Step trees s (wait.run s).2
  | complete {files : Files} (hfiles : trees files) {i flight : Nat} {locator : String}
      (hwaits : s.loads.Waits i flight locator) :
      Step trees s ((complete files i flight locator).run s).2
  | abandon (request : Pending) : Step trees s ((abandon request).run s).2
  | compatibility (id : String) : Step trees s ((compatibility id).run s).2
  | pair (target draft : String) : Step trees s ((pair target draft).run s).2

/-- The services that a service becomes step by step. -/
inductive Reaches (trees : Files → Prop) (s : Service) : Service → Prop where
  | start : Reaches trees s s
  | step {s' s'' : Service} (h : Reaches trees s s') (hstep : Step trees s' s'') :
      Reaches trees s s''

/-! ## Look-ups -/

theorem asks_complete (hfiles : trees files) (s : Service) (i flight : Nat) (locator : String) :
    Resolver.Asks trees s.resolver ((complete files i flight locator).run s).2.resolver := by
  rw [complete_run]
  simp only [completed]
  split
  · exact .refl s.resolver
  · exact Resolver.asks_afterResolveModel hfiles s.fetcher locator

theorem asks_begin (hfiles : trees files) (s : Service) (locator : String) :
    Resolver.Asks trees s.resolver ((begin files locator).run s).2.resolver := by
  rw [begin_run]
  split
  · exact asks_complete hfiles (s.requested locator) _ _ locator
  · exact .refl s.resolver

theorem Step.asks (h : Step trees s s') : Resolver.Asks trees s.resolver s'.resolver := by
  cases h with
  | resolve hfiles c => exact Resolver.asks_afterResolve hfiles c
  | begin hfiles locator => exact asks_begin hfiles s locator
  | complete hfiles hwaits => exact asks_complete hfiles s _ _ _
  | abandon request => cases request <;> exact .refl s.resolver
  | wait => exact .refl s.resolver
  | compatibility id => exact .refl s.resolver
  | pair target draft => exact .refl s.resolver

/-- Whatever a service does, its resolver does no more than ask its source. -/
theorem Reaches.asks (h : Reaches trees s s') : Resolver.Asks trees s.resolver s'.resolver := by
  induction h with
  | start => exact .refl s.resolver
  | step _ hstep ih => exact ih.trans hstep.asks

/-! ## What stays -/

/-- What stays of a service while it runs. -/
structure Follows (trees : Files → Prop) (s s' : Service) : Prop where
  resolver : Resolver.Continues trees s.resolver s'.resolver
  catalog : s'.catalog = s.catalog
  fetcher : s'.fetcher = s.fetcher
  slotsOpen : s'.loads.SlotsOpen
  /-- A locator whose loading always comes to one result has landed with no other. -/
  landsWith : ∀ {locator result},
    (∀ resolver files, Resolver.Continues trees s.resolver resolver → trees files →
      resolver.resolveModel files s.fetcher locator = result) →
    s'.loads.LandsWith locator result

namespace Follows

theorem requested (h : Follows trees s s') (locator : String) :
    Follows trees s (s'.requested locator) where
  resolver := h.resolver
  catalog := h.catalog
  fetcher := h.fetcher
  slotsOpen := (h.slotsOpen.request locator).beginFetch _
  landsWith hresult := ((h.landsWith hresult).request locator).beginFetch _

/-- A request whose locator always loads alike is given that result, whenever its flight landed
or will. -/
theorem resultOf_eq (h : Follows trees s s') (hwaits : s'.loads.Waits i flight locator)
    (hfiles : trees files) {result : Except LoadError ResolvedModel}
    (hresult : ∀ resolver files, Resolver.Continues trees s.resolver resolver → trees files →
      resolver.resolveModel files s.fetcher locator = result) :
    s'.resultOf files flight locator = result := by
  obtain ⟨f, hf, hlocator⟩ := Option.map_eq_some_iff.mp hwaits.flight
  rw [resultOf]
  cases hlanded : s'.loads.result? flight with
  | some landed =>
      rw [Coalescer.result?, hf] at hlanded
      exact h.landsWith hresult flight f hf hlocator landed hlanded
  | none => rw [Option.getD_none, h.fetcher, hresult s'.resolver files h.resolver hfiles]

theorem complete (hstatic : s.catalog.Fixed) (hfiles : trees files)
    (h : Follows trees s s') (hwaits : s'.loads.Waits i flight locator) :
    Follows trees s ((complete files i flight locator).run s').2 := by
  have hasks := asks_complete hfiles s' i flight locator
  rw [complete_run] at hasks ⊢
  refine ⟨h.resolver.trans hasks.continues, ?_, h.fetcher,
    h.slotsOpen.land_answer hwaits.request _, ?_⟩
  · have hsame : s'.catalog.afterLookup = s.catalog := by
      rw [h.catalog, Catalog.afterLookup_eq_self hstatic]
    simp only [completed]
    split
    · exact hsame
    · exact h.catalog
  · intro key result hresult
    refine ((h.landsWith hresult).land ?_).answer i
    intro f hf hlocator
    have hkey : locator = key := by
      have hflight := hwaits.flight
      rw [hf, Option.map_some] at hflight
      rw [← Option.some.inj hflight, hlocator]
    subst hkey
    exact h.resultOf_eq hwaits hfiles hresult

theorem begin (hstatic : s.catalog.Fixed) (hfiles : trees files)
    (h : Follows trees s s') (locator : String) :
    Follows trees s ((begin files locator).run s').2 := by
  rw [begin_run]
  split
  · exact (h.requested locator).complete hstatic hfiles (waits_requested h.slotsOpen locator)
  · exact h.requested locator

end Follows

/-- A service with a catalog without a limit keeps to itself while it runs. -/
theorem Reaches.follows (hstatic : s.catalog.Fixed) (hloads : s.loads = .empty)
    (h : Reaches trees s s') : Follows trees s s' := by
  induction h with
  | start =>
      exact ⟨.refl _, rfl, rfl, hloads ▸ Coalescer.slotsOpen_empty,
        fun _ => hloads ▸ Coalescer.landsWith_empty _ _⟩
  | step _ hstep ih =>
      cases hstep with
      | resolve hfiles c =>
          exact { ih with
            resolver := ih.resolver.trans (Resolver.asks_afterResolve hfiles c).continues }
      | begin hfiles locator => exact ih.begin hstatic hfiles locator
      | wait => exact { ih with }
      | complete hfiles hwaits => exact ih.complete hstatic hfiles hwaits
      | abandon request =>
          cases request with
          | waiting i flight locator =>
              exact { ih with
                slotsOpen := ih.slotsOpen.drop i
                landsWith := fun hresult => (ih.landsWith hresult).drop i }
          | done outcome => exact ih
      | compatibility id => exact { ih with }
      | pair target draft => exact { ih with }

/-! ## Loads -/

theorem loads_complete (s : Service) (i flight : Nat) (locator : String) :
    s.loads.Reaches ((complete files i flight locator).run s).2.loads := by
  rw [complete_run]
  exact .step (.step .start (.land flight _ _)) (.answer i _)

theorem loads_begin (s : Service) (locator : String) :
    s.loads.Reaches ((begin files locator).run s).2.loads := by
  have hrequested : s.loads.Reaches (s.requested locator).loads :=
    .step (.step .start (.request locator _)) (.beginFetch _ _)
  rw [begin_run]
  split
  · exact hrequested.trans (loads_complete (s.requested locator) _ _ locator)
  · exact hrequested

theorem Step.loads (h : Step trees s s') : s.loads.Reaches s'.loads := by
  cases h with
  | begin hfiles locator => exact loads_begin s locator
  | complete hfiles hwaits => exact loads_complete s _ _ _
  | abandon request =>
      cases request with
      | waiting i flight locator => exact .step .start (.drop i _)
      | done outcome => exact .start
  | resolve | wait | compatibility | pair => exact .start

/-- A run of a service is a run of its coalescer: what holds of all runs of requests and flights
holds of its loads. -/
theorem Reaches.loads (h : Reaches trees s s') : s.loads.Reaches s'.loads := by
  induction h with
  | start => exact .start
  | step _ hstep ih => exact ih.trans hstep.loads

/-! ## Operations as runs -/

theorem run_bind {α β : Type} (m : StateM Service α) (f : α → StateM Service β) (s : Service) :
    (m >>= f).run s = (f (m.run s).1).run (m.run s).2 :=
  rfl

/-- A request that was taken up is at its end, or it waits. -/
def Pends (s : Service) : Pending → Prop
  | .waiting i flight locator => s.loads.Waits i flight locator
  | .done _ => True

/-- The place of a request that waits. -/
def place? : Pending → Option Nat
  | .waiting i _ _ => some i
  | .done _ => none

/-- Two requests are not the same one that waits. -/
def Apart (p q : Pending) : Prop :=
  ∀ i, place? p = some i → place? q ≠ some i

/-- A service on its way, and the requests that it has taken up and not yet settled. -/
structure UnderWay (trees : Files → Prop) (s s' : Service) (pending : List Pending) : Prop where
  reaches : Reaches trees s s'
  pends : ∀ p ∈ pending, s'.Pends p
  apart : pending.Pairwise Apart

theorem Pends.requested {p : Pending} (h : s.Pends p) (locator : String) :
    (s.requested locator).Pends p := by
  cases p with
  | waiting i flight key => exact (Coalescer.Waits.requested h locator).beginFetch _
  | done outcome => trivial

theorem Pends.complete {p : Pending} (h : s.Pends p) (hne : place? p ≠ some i) :
    ((complete files i flight locator).run s).2.Pends p := by
  cases p with
  | waiting j joined key =>
      rw [complete_run]
      have hother : i ≠ j := fun hsame => hne (by rw [place?, hsame])
      exact (Coalescer.Waits.land h flight _).answer hother
  | done outcome => trivial

/-- A request that waits has its place before all requests to come. -/
theorem Pends.place?_ne {p : Pending} (h : s.Pends p) :
    place? p ≠ some s.loads.requests.length := by
  cases p with
  | waiting i flight key =>
      intro hsame
      have hlt : i < s.loads.requests.length := Coalescer.Waits.lt_length h
      rw [place?, Option.some.injEq] at hsame
      exact absurd hsame (Nat.ne_of_lt hlt)
  | done outcome => simp [place?]

theorem Pends.begin {p : Pending} (h : s.Pends p) (locator : String) :
    ((begin files locator).run s).2.Pends p := by
  rw [begin_run]
  split
  · exact (h.requested locator).complete h.place?_ne
  · exact h.requested locator

theorem pends_begin (h : s.loads.SlotsOpen) (locator : String) :
    ((begin files locator).run s).2.Pends ((begin files locator).run s).1 := by
  rw [begin_run]
  split
  · trivial
  · exact waits_requested h locator

theorem place?_begin (locator : String) {i : Nat}
    (h : place? ((begin files locator).run s).1 = some i) : i = s.loads.requests.length := by
  rw [begin_run] at h
  split at h
  · cases h
  · exact (Option.some.inj h).symm

theorem Pends.settle {p q : Pending} (hp : s.Pends p) (hapart : Apart q p) :
    ((settle files q).run s).2.Pends p := by
  cases q with
  | waiting i flight locator => exact hp.complete (hapart i rfl)
  | done outcome => exact hp

theorem Pends.abandon {p q : Pending} (hp : s.Pends p) (hapart : Apart q p) :
    ((abandon q).run s).2.Pends p := by
  cases q with
  | waiting i flight locator =>
      cases p with
      | waiting j joined key =>
          have hother : i ≠ j := fun hsame => hapart i rfl (by rw [place?, hsame])
          exact Coalescer.Waits.drop hp hother
      | done outcome => trivial
  | done outcome => exact hp

/-- Pairing two loaded models is one look into the pairings. -/
theorem Reaches.join (h : Reaches trees s s') (target draft : PreparedModel) :
    Reaches trees s ((join target draft).run s').2 := by
  have hpair := h.step (.pair target.architecture draft.architecture)
  rw [Service.join, run_bind]
  split
  · exact hpair
  · split <;> exact hpair

namespace UnderWay

variable {p : Pending} {pending : List Pending}

theorem start (h : Reaches trees s s') : UnderWay trees s s' [] :=
  ⟨h, by simp, .nil⟩

theorem begin (hstatic : s.catalog.Fixed) (hloads : s.loads = .empty)
    (hfiles : trees files) (h : UnderWay trees s s' pending) (locator : String) :
    UnderWay trees s ((begin files locator).run s').2
      (pending ++ [((begin files locator).run s').1]) where
  reaches := h.reaches.step (.begin hfiles locator)
  pends := by
    have hslots := (h.reaches.follows hstatic hloads).slotsOpen
    intro q hq
    rw [List.mem_append, List.mem_singleton] at hq
    cases hq with
    | inl hq => exact (h.pends q hq).begin locator
    | inr hq => exact hq ▸ pends_begin hslots locator
  apart := by
    rw [List.pairwise_append]
    refine ⟨h.apart, List.pairwise_singleton _ _, ?_⟩
    intro q hq r hr i hqi hri
    rw [List.mem_singleton.mp hr] at hri
    exact (h.pends q hq).place?_ne (place?_begin locator hri ▸ hqi)

theorem wait (h : UnderWay trees s s' pending) :
    UnderWay trees s (Service.wait.run s').2 pending where
  reaches := h.reaches.step .wait
  pends := by
    intro q hq
    have hpends := h.pends q hq
    cases q with
    | waiting i flight locator => exact hpends
    | done outcome => trivial
  apart := h.apart

theorem settle (hfiles : trees files) (h : UnderWay trees s s' (p :: pending)) :
    UnderWay trees s ((settle files p).run s').2 pending where
  reaches := by
    have hpends := h.pends p List.mem_cons_self
    cases p with
    | waiting i flight locator => exact h.reaches.step (.complete hfiles hpends)
    | done outcome => exact h.reaches
  pends q hq := (h.pends q (List.mem_cons_of_mem p hq)).settle
    ((List.pairwise_cons.mp h.apart).1 q hq)
  apart := (List.pairwise_cons.mp h.apart).2

theorem abandon (h : UnderWay trees s s' (p :: pending)) :
    UnderWay trees s ((abandon p).run s').2 pending where
  reaches := h.reaches.step (.abandon p)
  pends q hq := (h.pends q (List.mem_cons_of_mem p hq)).abandon
    ((List.pairwise_cons.mp h.apart).1 q hq)
  apart := (List.pairwise_cons.mp h.apart).2

theorem beginAll (hstatic : s.catalog.Fixed) (hloads : s.loads = .empty)
    (hfiles : trees files) (locators : List String) (h : UnderWay trees s s' pending) :
    UnderWay trees s ((locators.mapM (Service.begin files)).run s').2
      (pending ++ ((locators.mapM (Service.begin files)).run s').1) := by
  induction locators generalizing s' pending with
  | nil =>
      rw [List.mapM_nil]
      exact (List.append_nil pending).symm ▸ h
  | cons locator rest ih =>
      have hrest := ih (h.begin hstatic hloads hfiles locator)
      rw [List.append_assoc] at hrest
      rw [List.mapM_cons]
      exact hrest

theorem settleAll (hfiles : trees files) (h : UnderWay trees s s' pending) :
    UnderWay trees s ((pending.mapM (Service.settle files)).run s').2 [] := by
  induction pending generalizing s' with
  | nil => exact h
  | cons p rest ih =>
      rw [List.mapM_cons]
      exact ih (h.settle hfiles)

theorem settleBoth (hfiles : trees files) {target draft : Pending}
    (h : UnderWay trees s s' [target, draft]) :
    Reaches trees s ((settleBoth files target draft).run s').2 := by
  have htarget := h.settle hfiles
  rw [Service.settleBoth, run_bind]
  split
  · exact htarget.abandon.reaches
  · have hdraft := htarget.settle hfiles
    rw [run_bind]
    split
    · exact hdraft.reaches
    · exact hdraft.reaches.join _ _

end UnderWay

section Operations

variable (hstatic : s.catalog.Fixed) (hloads : s.loads = .empty)
  (hfiles : trees files) (h : Reaches trees s s')

include hstatic hloads hfiles h

/-- Preparing models at once is a run of the service. -/
theorem Reaches.prepareMany (locators : List String) :
    Reaches trees s ((prepareMany files locators).run s').2 := by
  have hbegun := (UnderWay.start h).beginAll hstatic hloads hfiles locators
  exact (hbegun.wait.settleAll hfiles).reaches

theorem Reaches.prepare (locator : String) :
    Reaches trees s ((prepare files locator).run s').2 := by
  have hbegun := (UnderWay.start h).begin hstatic hloads hfiles locator
  exact (hbegun.wait.settle hfiles).reaches

theorem Reaches.prepareSpeculative (target draft : String) :
    Reaches trees s ((prepareSpeculative files target draft).run s').2 := by
  have htarget := (UnderWay.start h).begin hstatic hloads hfiles target
  rw [Service.prepareSpeculative, run_bind]
  split
  · exact htarget.reaches
  · have hdraft := htarget.begin hstatic hloads hfiles draft
    rw [run_bind]
    split
    · exact hdraft.abandon.reaches
    · exact hdraft.wait.settleBoth hfiles

end Operations

end Service

end ModelRegistry
