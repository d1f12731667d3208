import ModelRegistry.Coalescing

/-!
# ModelRegistry.Proofs.Coalescing

What requests can rely on. A slot holds a flight of its locator, and one that has
not landed, as long as whoever lands a flight also answers its request
(`SlotsOpen`): whoever comes next joins a flight in the air or starts one. And
where all fetches of a locator come to one result, no flight of it holds another
(`LandsWith`).
-/

namespace ModelRegistry

/-! ## Flights -/

namespace Flight

variable {ρ : Type} {f : Flight ρ} {result : ρ}

@[simp] theorem locator_beginFetch : f.beginFetch.locator = f.locator := by
  rw [beginFetch]
  split <;> rfl

@[simp] theorem result?_beginFetch : f.beginFetch.result? = f.result? := by
  cases hstage : f.stage <;> simp [beginFetch, result?, hstage]

@[simp] theorem locator_land : (f.land result).locator = f.locator := by
  rw [land]
  split <;> rfl

/-- A flight that has landed keeps its result, and another comes to the one that it is given. -/
theorem result?_land {r : ρ} (h : (f.land result).result? = some r) :
    f.result? = some r ∨ r = result := by
  rw [land] at h
  split at h
  · exact .inr (Option.some.inj h).symm
  · exact .inl h

end Flight

namespace Coalescer

variable {ρ : Type} {c : Coalescer ρ} {locator : String} {flight other i : Nat}

/-- A flight of the locator that has not landed. -/
def Aloft (c : Coalescer ρ) (locator : String) (flight : Nat) : Prop :=
  ∃ f : Flight ρ, c.flights[flight]? = some f ∧ f.locator = locator ∧ f.result? = none

/-- Every slot holds a flight of its locator that has not landed. -/
def SlotsOpen (c : Coalescer ρ) : Prop :=
  ∀ locator flight, c.slots.lookup locator = some flight → c.Aloft locator flight

/-- No flight of the locator has landed with another result. -/
def LandsWith (locator : String) (result : ρ) (c : Coalescer ρ) : Prop :=
  ∀ (flight : Nat) (f : Flight ρ), c.flights[flight]? = some f → f.locator = locator →
    ∀ r, f.result? = some r → r = result

/-! ## Flights in the air -/

theorem Aloft.result? (h : c.Aloft locator flight) : c.result? flight = none := by
  obtain ⟨f, hf, -, hresult⟩ := h
  rw [Coalescer.result?, hf]
  exact hresult

theorem Aloft.request (h : c.Aloft locator flight) (key : String) :
    (c.request key).Aloft locator flight := by
  obtain ⟨f, hf, hlocator, hresult⟩ := h
  refine ⟨f, ?_, hlocator, hresult⟩
  rw [Coalescer.request]
  cases c.slots.lookup key with
  | some _ => exact hf
  | none =>
      obtain ⟨hlt, -⟩ := List.getElem?_eq_some_iff.mp hf
      rw [← hf]
      exact List.getElem?_append_left hlt

theorem Aloft.beginFetch (h : c.Aloft locator flight) (other : Nat) :
    (c.beginFetch other).Aloft locator flight := by
  obtain ⟨f, hf, hlocator, hresult⟩ := h
  rw [Aloft, Coalescer.beginFetch]
  by_cases hother : other = flight
  · exact ⟨f.beginFetch, by simp [hother, hf], by simpa using hlocator, by simpa using hresult⟩
  · exact ⟨f, by simp [hother, hf], hlocator, hresult⟩

theorem Aloft.land (h : c.Aloft locator flight) (hne : other ≠ flight) (result : ρ) :
    (c.land other result).Aloft locator flight := by
  obtain ⟨f, hf, hlocator, hresult⟩ := h
  exact ⟨f, by simp [Coalescer.land, hne, hf], hlocator, hresult⟩

/-! ## Open slots -/

/-- A request comes after those that were made before it. -/
theorem requests_request (locator : String) :
    (c.request locator).requests = c.requests ++ [⟨c.nextFlight locator, .waiting⟩] := by
  rw [request]
  cases c.slots.lookup locator <;> rfl

theorem slotsOpen_empty : SlotsOpen (empty : Coalescer ρ) := by
  intro locator flight h
  cases h

/-- A request of a locator joins a flight of it that has not landed. -/
theorem SlotsOpen.aloft_request (h : c.SlotsOpen) (locator : String) :
    (c.request locator).Aloft locator (c.nextFlight locator) := by
  cases hslot : c.slots.lookup locator with
  | some flight =>
      rw [nextFlight, hslot]
      exact (h locator flight hslot).request locator
  | none =>
      refine ⟨.ofLocator locator, ?_, rfl, rfl⟩
      rw [nextFlight, Coalescer.request, hslot]
      exact List.getElem?_concat_length

theorem SlotsOpen.request (h : c.SlotsOpen) (locator : String) : (c.request locator).SlotsOpen := by
  intro key flight hkey
  cases hslot : c.slots.lookup locator with
  | some joined =>
      rw [Coalescer.request, hslot] at hkey
      exact (h key flight hkey).request locator
  | none =>
      have hslots : (c.request locator).slots = c.slots.put locator c.flights.length := by
        rw [Coalescer.request, hslot]
      rw [hslots, Table.lookup_put] at hkey
      split at hkey
      · next hkey' =>
          subst hkey'
          have hjoined := h.aloft_request key
          rw [nextFlight, hslot] at hjoined
          rwa [← Option.some.inj hkey]
      · exact (h key flight hkey).request locator

theorem SlotsOpen.beginFetch (h : c.SlotsOpen) (flight : Nat) : (c.beginFetch flight).SlotsOpen :=
  fun key joined hkey => (h key joined hkey).beginFetch flight

theorem SlotsOpen.drop (h : c.SlotsOpen) (i : Nat) : (c.drop i).SlotsOpen := by
  rw [Coalescer.drop]
  split
  · exact h
  · exact h

/-- A slot that is still there was there before, and it is not that of the flight. -/
theorem lookup_clearSlot {f : Flight ρ} (hf : c.flights[flight]? = some f)
    (h : (c.clearSlot flight).lookup locator = some other) :
    c.slots.lookup locator = some other ∧ (f.locator = locator → other ≠ flight) := by
  rw [clearSlot, hf] at h
  simp only at h
  split at h
  · rw [Table.lookup_erase] at h
    split at h
    · cases h
    · next hne => exact ⟨h, fun hsame => absurd hsame.symm hne⟩
  · next hslot =>
      refine ⟨h, ?_⟩
      intro hlocator hother
      subst hlocator hother
      exact hslot h

@[simp] theorem flights_answer : (c.answer i).flights = c.flights := by
  rw [answer]
  split
  · split <;> rfl
  · rfl

/-- A waiting request whose flight has landed takes its flight out of the slots. -/
theorem slots_answer {result : ρ} (hwaits : c.requests[i]? = some ⟨flight, .waiting⟩)
    (hlanded : c.result? flight = some result) : (c.answer i).slots = c.clearSlot flight := by
  rw [answer, hwaits]
  simp only [hlanded]

theorem slots_answer_of_aloft (hwaits : c.requests[i]? = some ⟨flight, .waiting⟩)
    (hresult : c.result? flight = none) : (c.answer i).slots = c.slots := by
  rw [answer, hwaits]
  simp only [hresult]

/-- Landing a flight and then answering a request that waits for it leaves no slot with a flight
that has landed. -/
theorem SlotsOpen.land_answer (h : c.SlotsOpen)
    (hwaits : c.requests[i]? = some ⟨flight, .waiting⟩) (result : ρ) :
    ((c.land flight result).answer i).SlotsOpen := by
  intro key joined hkey
  rw [Aloft, flights_answer]
  cases hlanded : (c.land flight result).result? flight with
  | none =>
      rw [slots_answer_of_aloft (c := c.land flight result) hwaits hlanded] at hkey
      by_cases hjoined : flight = joined
      · subst hjoined
        obtain ⟨f, hf, hlocator, -⟩ := h key flight hkey
        rw [Coalescer.result?, Coalescer.land] at hlanded
        exact ⟨f.land result, by simp [Coalescer.land, hf], by simpa using hlocator,
          by simpa [hf] using hlanded⟩
      · exact (h key joined hkey).land hjoined result
  | some landed =>
      rw [slots_answer (c := c.land flight result) hwaits hlanded] at hkey
      obtain ⟨f, hf⟩ : ∃ f, c.flights[flight]? = some f := by
        cases hf : c.flights[flight]? with
        | none => simp [Coalescer.result?, Coalescer.land, hf] at hlanded
        | some f => exact ⟨f, rfl⟩
      have hf' : (c.land flight result).flights[flight]? = some (f.land result) := by
        simp [Coalescer.land, hf]
      obtain ⟨hbefore, hother⟩ := lookup_clearSlot hf' hkey
      by_cases hjoined : flight = joined
      · subst hjoined
        obtain ⟨f', hf', hlocator, -⟩ := h key flight hbefore
        obtain rfl := Option.some.inj (hf.symm.trans hf')
        exact absurd rfl (hother (by simpa using hlocator))
      · exact (h key joined hbefore).land hjoined result

/-- A flight that has landed is not landed again. -/
theorem land_of_landed {landed : ρ} (h : c.result? flight = some landed) (result : ρ) :
    c.land flight result = c := by
  have hsame : c.flights.modify flight (Flight.land result) = c.flights := by
    apply List.ext_getElem?
    intro k
    by_cases hk : flight = k
    · subst hk
      rw [List.getElem?_modify_eq]
      cases hf : c.flights[flight]? with
      | none => rfl
      | some f =>
          rw [Coalescer.result?, hf] at h
          cases hstage : f.stage <;> simp_all [Flight.land, Flight.result?]
    · rw [List.getElem?_modify_ne _ _ hk]
  rw [land, hsame]

/-! ## Requests that wait -/

/-- A request that waits for a flight of the locator. -/
structure Waits (c : Coalescer ρ) (i flight : Nat) (locator : String) : Prop where
  request : c.requests[i]? = some ⟨flight, .waiting⟩
  flight : c.flights[flight]?.map (·.locator) = some locator

theorem Waits.lt_length (h : c.Waits i flight locator) : i < c.requests.length := by
  obtain ⟨hlt, -⟩ := List.getElem?_eq_some_iff.mp h.request
  exact hlt

/-- A request waits as soon as it is made. -/
theorem SlotsOpen.waits_request (h : c.SlotsOpen) (locator : String) :
    (c.request locator).Waits c.requests.length (c.nextFlight locator) locator where
  request := by rw [requests_request, List.getElem?_concat_length]
  flight := by
    obtain ⟨f, hf, hlocator, -⟩ := h.aloft_request locator
    rw [hf, Option.map_some, hlocator]

theorem Waits.requested (h : c.Waits i flight locator) (key : String) :
    (c.request key).Waits i flight locator where
  request := by
    rw [requests_request, List.getElem?_append_left h.lt_length]
    exact h.request
  flight := by
    have hflight := h.flight
    rw [Coalescer.request]
    cases c.slots.lookup key with
    | some _ => exact hflight
    | none =>
        obtain ⟨f, hf, -⟩ := Option.map_eq_some_iff.mp hflight
        obtain ⟨hlt, -⟩ := List.getElem?_eq_some_iff.mp hf
        rw [← hflight]
        exact congrArg _ (List.getElem?_append_left hlt)

/-- What becomes of flights leaves their locators alone. -/
theorem locator_modify {change : Flight ρ → Flight ρ}
    (hchange : ∀ f, (change f).locator = f.locator) (flights : List (Flight ρ))
    (other flight : Nat) :
    (flights.modify other change)[flight]?.map (·.locator) = flights[flight]?.map (·.locator) := by
  rw [List.getElem?_modify]
  cases flights[flight]? with
  | none => rfl
  | some f =>
      by_cases hother : other = flight
      · simp [hother, hchange]
      · simp [hother]

theorem Waits.beginFetch (h : c.Waits i flight locator) (other : Nat) :
    (c.beginFetch other).Waits i flight locator where
  request := h.request
  flight := by
    rw [← h.flight]
    exact locator_modify (fun _ => Flight.locator_beginFetch) c.flights other flight

theorem Waits.land (h : c.Waits i flight locator) (other : Nat) (result : ρ) :
    (c.land other result).Waits i flight locator where
  request := h.request
  flight := by
    rw [← h.flight]
    exact locator_modify (fun _ => Flight.locator_land) c.flights other flight

/-- A request waits on while others are answered. -/
theorem Waits.answer (h : c.Waits i flight locator) {j : Nat} (hne : j ≠ i) :
    (c.answer j).Waits i flight locator where
  request := by
    rw [Coalescer.answer]
    split
    · split
      · rw [List.getElem?_set_ne hne]
        exact h.request
      · exact h.request
    · exact h.request
  flight := by
    rw [flights_answer]
    exact h.flight

theorem Waits.drop (h : c.Waits i flight locator) {j : Nat} (hne : j ≠ i) :
    (c.drop j).Waits i flight locator where
  request := by
    rw [Coalescer.drop]
    split
    · rw [List.getElem?_set_ne hne]
      exact h.request
    · exact h.request
  flight := by
    have hflight := h.flight
    rw [Coalescer.drop]
    split
    · exact hflight
    · exact hflight

/-! ## The results of a locator -/

theorem landsWith_empty (locator : String) (result : ρ) : LandsWith locator result empty := by
  intro flight f h
  simp [empty] at h

theorem LandsWith.request {result : ρ} (h : c.LandsWith locator result) (key : String) :
    (c.request key).LandsWith locator result := by
  intro flight f hf
  rw [Coalescer.request] at hf
  split at hf
  · exact h flight f hf
  · rw [List.getElem?_append] at hf
    split at hf
    · exact h flight f hf
    · intro _ r hr
      rw [List.getElem?_singleton] at hf
      split at hf
      · obtain rfl := Option.some.inj hf
        cases hr
      · cases hf

theorem LandsWith.beginFetch {result : ρ} (h : c.LandsWith locator result) (other : Nat) :
    (c.beginFetch other).LandsWith locator result := by
  intro flight f hf
  rw [Coalescer.beginFetch] at hf
  by_cases hother : other = flight
  · subst hother
    rw [List.getElem?_modify_eq] at hf
    obtain ⟨g, hg, rfl⟩ := Option.map_eq_some_iff.mp hf
    simpa using h other g hg
  · rw [List.getElem?_modify_ne _ _ hother] at hf
    exact h flight f hf

/-- Landing keeps the results of a locator if its flights are given the same result. -/
theorem LandsWith.land {result : ρ} (h : c.LandsWith locator result) {given : ρ}
    (hgiven : ∀ f, c.flights[other]? = some f → f.locator = locator → given = result) :
    (c.land other given).LandsWith locator result := by
  intro flight f hf hlocator r hr
  rw [Coalescer.land] at hf
  by_cases hother : other = flight
  · subst hother
    rw [List.getElem?_modify_eq] at hf
    obtain ⟨g, hg, rfl⟩ := Option.map_eq_some_iff.mp hf
    rw [Flight.locator_land] at hlocator
    cases Flight.result?_land hr with
    | inl hbefore => exact h other g hg hlocator r hbefore
    | inr hsame => rw [hsame, hgiven g hg hlocator]
  · rw [List.getElem?_modify_ne _ _ hother] at hf
    exact h flight f hf hlocator r hr

theorem LandsWith.answer {result : ρ} (h : c.LandsWith locator result) (i : Nat) :
    (c.answer i).LandsWith locator result := by
  intro flight f hf
  rw [flights_answer] at hf
  exact h flight f hf

theorem LandsWith.drop {result : ρ} (h : c.LandsWith locator result) (i : Nat) :
    (c.drop i).LandsWith locator result := by
  rw [Coalescer.drop]
  split
  · exact h
  · exact h

end Coalescer

end ModelRegistry
