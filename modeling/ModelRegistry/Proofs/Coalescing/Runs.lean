import ModelRegistry.Proofs.Coalescing

/-!
# ModelRegistry.Proofs.Coalescing.Runs

What holds after any number of requests, fetches, results, answers and drops, in
whatever order they come. `Coalesced` is the invariant behind it:

* a flight in the air has the slot of its locator, so that a locator has one of
  them at most;
* a flight has begun as many fetches as its stage takes;
* a request that returned did so with the result of its flight;
* a flight in a slot has a request that did not return.

`Grows` says what stays of flights and requests from one moment to a later one.
Both are proved for each operation, and then for whole runs (`Reaches`).
-/

namespace ModelRegistry

/-! ## Flights -/

/-- The number of fetches that a flight has begun by a stage. -/
def Stage.fetches {ρ : Type} : Stage ρ → Nat
  | .ready => 0
  | .fetching => 1
  | .landed _ => 1

namespace Flight

variable {ρ : Type} {f f' f'' : Flight ρ} {result : ρ}

/-- The flight has begun as many fetches as its stage takes. -/
def Counted (f : Flight ρ) : Prop := f.fetches = f.stage.fetches

/-- What a flight may become: it keeps its locator and its result, and takes no fetch back. -/
structure Onward (f f' : Flight ρ) : Prop where
  locator : f'.locator = f.locator
  result : ∀ {r}, f.result? = some r → f'.result? = some r
  fetches : f.fetches ≤ f'.fetches

theorem Onward.refl (f : Flight ρ) : f.Onward f := ⟨rfl, id, Nat.le_refl _⟩

theorem Onward.trans (h : f.Onward f') (h' : f'.Onward f'') : f.Onward f'' where
  locator := h'.locator.trans h.locator
  result hr := h'.result (h.result hr)
  fetches := Nat.le_trans h.fetches h'.fetches

theorem onward_beginFetch (f : Flight ρ) : f.Onward f.beginFetch where
  locator := locator_beginFetch
  result hr := by rwa [result?_beginFetch]
  fetches := by cases hstage : f.stage <;> simp [beginFetch, hstage]

theorem onward_land (f : Flight ρ) (result : ρ) : f.Onward (f.land result) where
  locator := locator_land
  result hr := by cases hstage : f.stage <;> simp_all [land, result?]
  fetches := by cases hstage : f.stage <;> simp [land, hstage]

theorem Counted.beginFetch (h : f.Counted) : f.beginFetch.Counted := by
  unfold Counted at h ⊢
  cases hstage : f.stage <;> simp_all [Flight.beginFetch, Stage.fetches]

theorem Counted.land (h : f.Counted) (result : ρ) : (f.land result).Counted := by
  unfold Counted at h ⊢
  cases hstage : f.stage <;> simp_all [Flight.land, Stage.fetches]

theorem Counted.fetches_le (h : f.Counted) : f.fetches ≤ 1 := by
  unfold Counted at h
  cases hstage : f.stage <;> simp_all [Stage.fetches]

theorem Counted.fetches_of_result? (h : f.Counted) (hresult : f.result? = some result) :
    f.fetches = 1 := by
  unfold Counted at h
  cases hstage : f.stage <;> simp_all [Stage.fetches, result?]

end Flight

/-- The request did not return: it waits, or it was dropped. -/
def Request.IsOpen {ρ : Type} (request : Request ρ) : Prop :=
  ∀ result, request.state ≠ .returned result

namespace Coalescer

variable {ρ : Type} {c c' c'' : Coalescer ρ} {locator : String} {flight i : Nat}

/-! ## What an operation can do -/

/-- What stands in a list with one more item stood there before, or is that item. -/
theorem getElem?_concat_cases {α : Type} {xs : List α} {x y : α} {k : Nat}
    (h : (xs ++ [x])[k]? = some y) : xs[k]? = some y ∨ k = xs.length ∧ y = x := by
  rw [List.getElem?_append] at h
  split at h
  · exact .inl h
  · next hk =>
      rw [List.getElem?_singleton] at h
      obtain ⟨hzero, hx⟩ := Option.ite_none_right_eq_some.mp h
      exact .inr ⟨by omega, (Option.some.inj hx).symm⟩

theorem getElem?_concat_of_some {α : Type} {xs : List α} {y : α} {k : Nat} (h : xs[k]? = some y)
    (x : α) : (xs ++ [x])[k]? = some y := by
  rw [List.getElem?_append_left]
  · exact h
  · exact (List.getElem?_eq_some_iff.mp h).1

/-- A request joins the flight in the slot of its locator, or the slot is empty and it makes one
there. -/
theorem request_cases (c : Coalescer ρ) (locator : String) :
    (∃ flight, c.slots.lookup locator = some flight ∧
      c.request locator = { c with requests := c.requests ++ [⟨flight, .waiting⟩] }) ∨
    (c.slots.lookup locator = none ∧
      c.request locator = {
        flights := c.flights ++ [.ofLocator locator]
        slots := c.slots.put locator c.flights.length
        requests := c.requests ++ [⟨c.flights.length, .waiting⟩] }) := by
  cases hslot : c.slots.lookup locator with
  | some flight => exact .inl ⟨flight, rfl, by simp only [request, nextFlight, hslot]; rfl⟩
  | none => exact .inr ⟨rfl, by simp only [request, nextFlight, hslot]; rfl⟩

/-- Only a request that waits, and whose flight has landed, is answered. -/
theorem answer_cases (c : Coalescer ρ) (i : Nat) :
    c.answer i = c ∨
    ∃ flight result, c.requests[i]? = some ⟨flight, .waiting⟩ ∧ c.result? flight = some result ∧
      c.answer i = { c with
        slots := c.clearSlot flight
        requests := c.requests.set i ⟨flight, .returned result⟩ } := by
  unfold answer
  split
  · next flight hwaits =>
      split
      · next result hresult => exact .inr ⟨flight, result, hwaits, hresult, rfl⟩
      · exact .inl rfl
  · exact .inl rfl

/-- Clearing the slot of a flight leaves the slots of other flights alone. -/
theorem lookup_clearSlot_of_ne {other : Nat} (h : c.slots.lookup locator = some other)
    (hne : other ≠ flight) : (c.clearSlot flight).lookup locator = some other := by
  unfold clearSlot
  split
  · exact h
  · next f hf =>
      by_cases hslot : c.slots.lookup f.locator = some flight
      · have hlocator : locator ≠ f.locator := by
          rintro rfl
          exact hne (Option.some.inj (h.symm.trans hslot))
        rw [if_pos hslot, Table.lookup_erase, if_neg hlocator]
        exact h
      · rw [if_neg hslot]
        exact h

/-- A request that is answered takes no flight out of a slot but its own. -/
theorem slots_answer_of_ne {other : Nat} (h : c.slots.lookup locator = some other)
    (hne : ∀ request, c.requests[i]? = some request → request.flight ≠ other) :
    (c.answer i).slots.lookup locator = some other := by
  obtain heq | ⟨flight, result, hwaits, -, heq⟩ := c.answer_cases i
  · rw [heq]
    exact h
  · rw [heq]
    exact lookup_clearSlot_of_ne h (hne _ hwaits).symm

/-- Only a request that waits is dropped. -/
theorem drop_cases (c : Coalescer ρ) (i : Nat) :
    c.drop i = c ∨
    ∃ flight, c.requests[i]? = some ⟨flight, .waiting⟩ ∧
      c.drop i = { c with requests := c.requests.set i ⟨flight, .dropped⟩ } := by
  unfold drop
  split
  · next flight hwaits => exact .inr ⟨flight, hwaits, rfl⟩
  · exact .inl rfl

/-- What beginning a fetch and landing have in common: something becomes of one flight. -/
def become (c : Coalescer ρ) (flight : Nat) (change : Flight ρ → Flight ρ) : Coalescer ρ :=
  { c with flights := c.flights.modify flight change }

theorem beginFetch_eq (c : Coalescer ρ) (flight : Nat) :
    c.beginFetch flight = c.become flight Flight.beginFetch := rfl

theorem land_eq (c : Coalescer ρ) (flight : Nat) (result : ρ) :
    c.land flight result = c.become flight (Flight.land result) := rfl

theorem getElem?_become (c : Coalescer ρ) (flight k : Nat) (change : Flight ρ → Flight ρ) :
    (c.become flight change).flights[k]? =
      if flight = k then c.flights[k]?.map change else c.flights[k]? := by
  rw [become, List.getElem?_modify]
  split <;> simp

/-- Before a flight became what it is, there was one that could become it. -/
theorem exists_of_become {change : Flight ρ → Flight ρ}
    (hchange : ∀ f : Flight ρ, f.Onward (change f))
    {k : Nat} {f' : Flight ρ} (h : (c.become flight change).flights[k]? = some f') :
    ∃ f, c.flights[k]? = some f ∧ f.Onward f' := by
  rw [getElem?_become] at h
  split at h
  · obtain ⟨f, hf, rfl⟩ := Option.map_eq_some_iff.mp h
    exact ⟨f, hf, hchange f⟩
  · exact ⟨f', h, .refl f'⟩

/-! ## The number of fetches -/

/-- The number of fetches that some flights have begun. -/
def fetchesOf (flights : List (Flight ρ)) : Nat := flights.foldr (fun f n => f.fetches + n) 0

theorem fetchesOf_concat (flights : List (Flight ρ)) (f : Flight ρ) :
    fetchesOf (flights ++ [f]) = fetchesOf flights + f.fetches := by
  induction flights with
  | nil => simp [fetchesOf]
  | cons g rest ih =>
      simp only [fetchesOf, List.cons_append, List.foldr_cons] at ih ⊢
      omega

theorem fetchesOf_modify {flights : List (Flight ρ)} {f : Flight ρ} {k : Nat}
    (h : flights[k]? = some f) (change : Flight ρ → Flight ρ) :
    fetchesOf (flights.modify k change) + f.fetches = fetchesOf flights + (change f).fetches := by
  induction flights generalizing k with
  | nil => simp at h
  | cons g rest ih =>
      cases k with
      | zero =>
          obtain rfl : g = f := by simpa using h
          simp only [fetchesOf, List.modify_zero_cons, List.foldr_cons]
          omega
      | succ k =>
          have hrest := ih (k := k) (by simpa using h)
          simp only [fetchesOf, List.modify_succ_cons, List.foldr_cons] at hrest ⊢
          omega

theorem le_fetchesOf_modify {change : Flight ρ → Flight ρ}
    (hchange : ∀ f : Flight ρ, f.Onward (change f)) (flights : List (Flight ρ)) (k : Nat) :
    fetchesOf flights ≤ fetchesOf (flights.modify k change) := by
  cases hf : flights[k]? with
  | none =>
      have hlength : flights.length ≤ k := List.getElem?_eq_none_iff.mp hf
      exact Nat.le_of_eq (by rw [List.modify_eq_self hlength])
  | some f =>
      have hsum := fetchesOf_modify hf change
      have hgrows := (hchange f).fetches
      omega

theorem fetchesOf_le_length {flights : List (Flight ρ)} (h : ∀ f ∈ flights, f.Counted) :
    fetchesOf flights ≤ flights.length := by
  induction flights with
  | nil => simp [fetchesOf]
  | cons f rest ih =>
      have hrest := ih fun g hg => h g (List.mem_cons_of_mem f hg)
      have hf := (h f List.mem_cons_self).fetches_le
      simp only [fetchesOf, List.foldr_cons, List.length_cons] at hrest ⊢
      omega

/-! ## What stays -/

/-- What stays of flights and requests from one moment to a later one. The last of the facts on
a flight says that the fetches that it has begun meanwhile count. -/
structure Grows (c c' : Coalescer ρ) : Prop where
  flights : ∀ {flight : Nat} {f : Flight ρ}, c.flights[flight]? = some f →
    ∃ f', c'.flights[flight]? = some f' ∧ f.Onward f' ∧
      c.fetches + f'.fetches ≤ c'.fetches + f.fetches
  requests : ∀ {i : Nat} {request : Request ρ}, c.requests[i]? = some request →
    ∃ state, c'.requests[i]? = some ⟨request.flight, state⟩

namespace Grows

theorem refl (c : Coalescer ρ) : c.Grows c where
  flights h := ⟨_, h, .refl _, Nat.le_refl _⟩
  requests h := ⟨_, h⟩

theorem trans (h : c.Grows c') (h' : c'.Grows c'') : c.Grows c'' where
  flights hf := by
    obtain ⟨f', hf', honward, hfetches⟩ := h.flights hf
    obtain ⟨f'', hf'', honward', hfetches'⟩ := h'.flights hf'
    exact ⟨f'', hf'', honward.trans honward', by omega⟩
  requests hi := by
    obtain ⟨state, hi'⟩ := h.requests hi
    obtain ⟨state', hi''⟩ := h'.requests hi'
    exact ⟨state', hi''⟩

theorem result? {result : ρ} (h : c.Grows c') (hresult : c.result? flight = some result) :
    c'.result? flight = some result := by
  obtain ⟨f, hf, hlanded⟩ := Option.bind_eq_some_iff.mp hresult
  obtain ⟨f', hf', honward, -⟩ := h.flights hf
  rw [Coalescer.result?, hf']
  exact honward.result hlanded

theorem request (c : Coalescer ρ) (locator : String) : c.Grows (c.request locator) where
  flights {flight f} hf := by
    have hfetches : (c.request locator).fetches = c.fetches := by
      obtain ⟨joined, -, heq⟩ | ⟨-, heq⟩ := c.request_cases locator
      · rw [heq]; rfl
      · rw [heq]
        exact fetchesOf_concat c.flights (.ofLocator locator)
    refine ⟨f, ?_, .refl f, by omega⟩
    obtain ⟨joined, -, heq⟩ | ⟨-, heq⟩ := c.request_cases locator
    · rw [heq]
      exact hf
    · rw [heq]
      exact getElem?_concat_of_some hf _
  requests {i request} hi := by
    rw [requests_request]
    exact ⟨request.state, getElem?_concat_of_some hi _⟩

theorem become {change : Flight ρ → Flight ρ} (hchange : ∀ f : Flight ρ, f.Onward (change f))
    (c : Coalescer ρ) (flight : Nat) : c.Grows (c.become flight change) where
  flights {k f} hf := by
    rw [getElem?_become, hf]
    by_cases hk : flight = k
    · subst hk
      refine ⟨change f, by simp, hchange f, ?_⟩
      have hsum := fetchesOf_modify hf change
      exact Nat.le_of_eq hsum.symm
    · refine ⟨f, by simp [hk], .refl f, ?_⟩
      have hle : c.fetches ≤ (c.become flight change).fetches :=
        le_fetchesOf_modify hchange c.flights flight
      omega
  requests h := ⟨_, h⟩

/-- Settling a request leaves it with its flight. -/
theorem settle {request : Request ρ} (hi : c.requests[i]? = some request)
    (slots : Table String Nat) (state : RequestState ρ) :
    c.Grows { c with slots, requests := c.requests.set i ⟨request.flight, state⟩ } where
  flights h := ⟨_, h, .refl _, Nat.le_refl _⟩
  requests {j other} hj := by
    by_cases hij : i = j
    · subst hij
      obtain rfl := Option.some.inj (hi.symm.trans hj)
      have hlt : i < c.requests.length := (List.getElem?_eq_some_iff.mp hi).1
      exact ⟨state, List.getElem?_set_self hlt⟩
    · exact ⟨other.state, by rw [← hj]; exact List.getElem?_set_ne hij⟩

theorem answer (c : Coalescer ρ) (i : Nat) : c.Grows (c.answer i) := by
  obtain heq | ⟨flight, result, hwaits, -, heq⟩ := c.answer_cases i
  · rw [heq]
    exact .refl c
  · rw [heq]
    exact settle hwaits _ _

theorem drop (c : Coalescer ρ) (i : Nat) : c.Grows (c.drop i) := by
  obtain heq | ⟨flight, hwaits, heq⟩ := c.drop_cases i
  · rw [heq]
    exact .refl c
  · rw [heq]
    exact settle hwaits _ _

theorem step (h : Step c c') : c.Grows c' := by
  cases h with
  | request locator => exact request c locator
  | beginFetch flight =>
      rw [beginFetch_eq]
      exact become Flight.onward_beginFetch c flight
  | land flight result =>
      rw [land_eq]
      exact become (fun f => f.onward_land result) c flight
  | answer i => exact answer c i
  | drop i => exact drop c i

end Grows

/-! ## The invariant -/

/-- What holds at any moment of a run. -/
structure Coalesced (c : Coalescer ρ) : Prop where
  /-- A flight in the air has the slot of its locator. -/
  slot : ∀ {flight : Nat} {f : Flight ρ}, c.flights[flight]? = some f → f.result? = none →
    c.slots.lookup f.locator = some flight
  /-- A slot holds a flight of its locator. -/
  held : ∀ {locator : String} {flight : Nat}, c.slots.lookup locator = some flight →
    ∃ f, c.flights[flight]? = some f ∧ f.locator = locator
  counted : ∀ f ∈ c.flights, f.Counted
  /-- A request that returned did so with the result of its flight. -/
  told : ∀ {i flight : Nat} {result : ρ}, c.requests[i]? = some ⟨flight, .returned result⟩ →
    c.result? flight = some result
  /-- A flight in a slot has a request that did not return. -/
  wanted : ∀ {locator : String} {flight : Nat}, c.slots.lookup locator = some flight →
    ∃ (i : Nat) (request : Request ρ), c.requests[i]? = some request ∧ request.flight = flight ∧
      request.IsOpen

namespace Coalesced

theorem empty : (empty : Coalescer ρ).Coalesced where
  slot h := by simp [Coalescer.empty] at h
  held h := by simp [Coalescer.empty] at h
  counted f h := by simp [Coalescer.empty] at h
  told h := by simp [Coalescer.empty] at h
  wanted h := by simp [Coalescer.empty] at h

/-- Two flights of one locator are not in the air together. -/
theorem unique (h : c.Coalesced) {other : Nat} {f g : Flight ρ} (hf : c.flights[flight]? = some f)
    (hg : c.flights[other]? = some g) (hlocator : f.locator = g.locator) (hair : f.result? = none)
    (hair' : g.result? = none) : flight = other := by
  have hslot := h.slot hf hair
  rw [hlocator, h.slot hg hair'] at hslot
  exact (Option.some.inj hslot).symm

theorem request (h : c.Coalesced) (locator : String) : (c.request locator).Coalesced := by
  obtain ⟨joined, hslot, heq⟩ | ⟨hslot, heq⟩ := c.request_cases locator
  · rw [heq]
    refine { slot := h.slot, held := h.held, counted := h.counted, told := ?_, wanted := ?_ }
    · intro i flight result hi
      rcases getElem?_concat_cases hi with hold | ⟨-, hnew⟩
      · exact h.told hold
      · cases hnew
    · intro key flight hkey
      obtain ⟨i, request, hi, hflight, hopen⟩ := h.wanted hkey
      exact ⟨i, request, getElem?_concat_of_some hi _, hflight, hopen⟩
  · have hgrows := Grows.request c locator
    rw [heq] at hgrows ⊢
    refine { slot := ?_, held := ?_, counted := ?_, told := ?_, wanted := ?_ }
    · intro flight f hf hair
      rw [Table.lookup_put]
      rcases getElem?_concat_cases hf with hold | ⟨rfl, rfl⟩
      · have hother := h.slot hold hair
        have hne : f.locator ≠ locator := by
          intro hsame
          rw [hsame, hslot] at hother
          cases hother
        rw [if_neg hne]
        exact hother
      · exact if_pos rfl
    · intro key flight hkey
      rw [Table.lookup_put] at hkey
      by_cases hsame : key = locator
      · rw [if_pos hsame] at hkey
        obtain rfl := Option.some.inj hkey
        exact ⟨.ofLocator locator, List.getElem?_concat_length, hsame.symm⟩
      · rw [if_neg hsame] at hkey
        obtain ⟨f, hf, hlocator⟩ := h.held hkey
        exact ⟨f, getElem?_concat_of_some hf _, hlocator⟩
    · intro f hf
      rcases List.mem_append.mp hf with hold | hnew
      · exact h.counted f hold
      · obtain rfl := List.mem_singleton.mp hnew
        rfl
    · intro i flight result hi
      rcases getElem?_concat_cases hi with hold | ⟨-, hnew⟩
      · exact hgrows.result? (h.told hold)
      · cases hnew
    · intro key flight hkey
      rw [Table.lookup_put] at hkey
      by_cases hsame : key = locator
      · rw [if_pos hsame] at hkey
        obtain rfl := Option.some.inj hkey
        exact ⟨_, _, List.getElem?_concat_length, rfl, by simp [Request.IsOpen]⟩
      · rw [if_neg hsame] at hkey
        obtain ⟨i, request, hi, hflight, hopen⟩ := h.wanted hkey
        exact ⟨i, request, getElem?_concat_of_some hi _, hflight, hopen⟩

theorem become {change : Flight ρ → Flight ρ} (hchange : ∀ f : Flight ρ, f.Onward (change f))
    (hcounted : ∀ f : Flight ρ, f.Counted → (change f).Counted) (h : c.Coalesced) (flight : Nat) :
    (c.become flight change).Coalesced where
  slot {k f'} hf' hair' := by
    obtain ⟨f, hf, honward⟩ := exists_of_become hchange hf'
    have hair : f.result? = none := by
      cases hresult : f.result? with
      | none => rfl
      | some result => rw [honward.result hresult] at hair'; cases hair'
    rw [honward.locator]
    exact h.slot hf hair
  held {key k} hkey := by
    obtain ⟨f, hf, hlocator⟩ := h.held hkey
    obtain ⟨f', hf', honward, -⟩ := (Grows.become hchange c flight).flights hf
    exact ⟨f', hf', honward.locator.trans hlocator⟩
  counted f' hf' := by
    obtain ⟨k, hk⟩ := List.mem_iff_getElem?.mp hf'
    rw [getElem?_become] at hk
    split at hk
    · obtain ⟨f, hf, rfl⟩ := Option.map_eq_some_iff.mp hk
      exact hcounted f (h.counted f (List.mem_of_getElem? hf))
    · exact h.counted f' (List.mem_of_getElem? hk)
  told hi := (Grows.become hchange c flight).result? (h.told hi)
  wanted hkey := h.wanted hkey

theorem answer (h : c.Coalesced) (i : Nat) : (c.answer i).Coalesced := by
  obtain heq | ⟨flight, result, hwaits, hlanded, heq⟩ := c.answer_cases i
  · rw [heq]
    exact h
  · obtain ⟨f, hf, hresult⟩ := Option.bind_eq_some_iff.mp hlanded
    have hlt : i < c.requests.length := (List.getElem?_eq_some_iff.mp hwaits).1
    rw [heq]
    refine { slot := ?_, held := ?_, counted := h.counted, told := ?_, wanted := ?_ }
    · intro k g hg hair
      refine lookup_clearSlot_of_ne (h.slot hg hair) ?_
      rintro rfl
      obtain rfl := Option.some.inj (hf.symm.trans hg)
      rw [hair] at hresult
      cases hresult
    · intro key k hkey
      exact h.held (lookup_clearSlot hf hkey).1
    · intro j k other hj
      by_cases hij : i = j
      · subst hij
        rw [List.getElem?_set_self hlt] at hj
        cases hj
        exact hlanded
      · rw [List.getElem?_set_ne hij] at hj
        exact h.told hj
    · intro key k hkey
      obtain ⟨hbefore, hother⟩ := lookup_clearSlot hf hkey
      obtain ⟨j, request, hj, hk, hopen⟩ := h.wanted hbefore
      have hij : i ≠ j := by
        rintro rfl
        obtain rfl := Option.some.inj (hwaits.symm.trans hj)
        obtain ⟨g, hg, hlocator⟩ := h.held hbefore
        subst hk
        obtain rfl := Option.some.inj (hf.symm.trans hg)
        exact hother hlocator rfl
      exact ⟨j, request, by rw [← hj]; exact List.getElem?_set_ne hij, hk, hopen⟩

theorem drop (h : c.Coalesced) (i : Nat) : (c.drop i).Coalesced := by
  obtain heq | ⟨flight, hwaits, heq⟩ := c.drop_cases i
  · rw [heq]
    exact h
  · have hlt : i < c.requests.length := (List.getElem?_eq_some_iff.mp hwaits).1
    rw [heq]
    refine { slot := h.slot, held := h.held, counted := h.counted, told := ?_, wanted := ?_ }
    · intro j k other hj
      by_cases hij : i = j
      · subst hij
        rw [List.getElem?_set_self hlt] at hj
        cases hj
      · rw [List.getElem?_set_ne hij] at hj
        exact h.told hj
    · intro key k hkey
      obtain ⟨j, request, hj, hk, hopen⟩ := h.wanted hkey
      by_cases hij : i = j
      · subst hij
        obtain rfl := Option.some.inj (hwaits.symm.trans hj)
        exact ⟨i, _, List.getElem?_set_self hlt, hk, by simp [Request.IsOpen]⟩
      · exact ⟨j, request, by rw [← hj]; exact List.getElem?_set_ne hij, hk, hopen⟩

theorem step (h : c.Coalesced) (hstep : Step c c') : c'.Coalesced := by
  cases hstep with
  | request locator => exact h.request locator
  | beginFetch flight =>
      rw [beginFetch_eq]
      exact h.become Flight.onward_beginFetch (fun f hf => hf.beginFetch) flight
  | land flight result =>
      rw [land_eq]
      exact h.become (fun f => f.onward_land result) (fun f hf => hf.land result) flight
  | answer i => exact h.answer i
  | drop i => exact h.drop i

end Coalesced

/-! ## Runs -/

/-- The coalescers that a coalescer becomes step by step. -/
inductive Reaches (c : Coalescer ρ) : Coalescer ρ → Prop where
  | start : Reaches c c
  | step {c' c'' : Coalescer ρ} (h : Reaches c c') (hstep : Step c' c'') : Reaches c c''

theorem Reaches.trans (h : c.Reaches c') (h' : c'.Reaches c'') : c.Reaches c'' := by
  induction h' with
  | start => exact h
  | step _ hstep ih => exact ih.step hstep

theorem Reaches.grows (h : c.Reaches c') : c.Grows c' := by
  induction h with
  | start => exact .refl c
  | step _ hstep ih => exact ih.trans (.step hstep)

theorem Reaches.coalesced (hc : c.Coalesced) (h : c.Reaches c') : c'.Coalesced := by
  induction h with
  | start => exact hc
  | step _ hstep ih => exact ih.step hstep

/-- The request has this flight, which is one of the locator; and if it returned, then with the
result of that flight. -/
structure Serves (c : Coalescer ρ) (i flight : Nat) (locator : String) : Prop where
  request : ∃ state, c.requests[i]? = some ⟨flight, state⟩ ∧
    ∀ result, state = .returned result → c.result? flight = some result
  flight : ∃ f, c.flights[flight]? = some f ∧ f.locator = locator

/-- Every request of the locator has returned. -/
def Quiet (c : Coalescer ρ) (locator : String) : Prop :=
  ∀ (i : Nat) (request : Request ρ) (f : Flight ρ), c.requests[i]? = some request →
    c.flights[request.flight]? = some f → f.locator = locator →
    ∃ result, request.state = .returned result

/-- The next request of the locator has a flight of its own, and does not return before that has
begun a fetch, which is one more than there were. -/
structure StartsAnew (c : Coalescer ρ) (locator : String) : Prop where
  next : c.nextFlight locator = c.flights.length
  made : (c.request locator).flights = c.flights ++ [.ofLocator locator]
  fetches : ∀ {c' : Coalescer ρ} {flight : Nat} {result : ρ}, (c.request locator).Reaches c' →
    c'.requests[c.requests.length]? = some ⟨flight, .returned result⟩ → c.fetches < c'.fetches

namespace Coalesced

/-- A request that is made has a flight of its locator. -/
theorem exists_nextFlight (h : c.Coalesced) (locator : String) :
    ∃ f, (c.request locator).flights[c.nextFlight locator]? = some f ∧ f.locator = locator := by
  unfold nextFlight
  obtain ⟨joined, hslot, heq⟩ | ⟨hslot, heq⟩ := c.request_cases locator
  · rw [heq, hslot]
    exact h.held hslot
  · rw [heq, hslot]
    exact ⟨.ofLocator locator, List.getElem?_concat_length, rfl⟩

theorem serves (h : c.Coalesced) (hreaches : (c.request locator).Reaches c') :
    c'.Serves c.requests.length (c.nextFlight locator) locator where
  request := by
    have hmade : (c.request locator).requests[c.requests.length]? =
        some ⟨c.nextFlight locator, .waiting⟩ := by
      rw [requests_request]
      exact List.getElem?_concat_length
    obtain ⟨state, hstate⟩ := hreaches.grows.requests hmade
    refine ⟨state, hstate, ?_⟩
    rintro result rfl
    exact (hreaches.coalesced (h.request locator)).told hstate
  flight := by
    obtain ⟨f, hf, hlocator⟩ := h.exists_nextFlight locator
    obtain ⟨f', hf', honward, -⟩ := hreaches.grows.flights hf
    exact ⟨f', hf', honward.locator.trans hlocator⟩

/-- The slot of a locator whose requests have all returned is empty. -/
theorem lookup_of_quiet (h : c.Coalesced) (hquiet : c.Quiet locator) :
    c.slots.lookup locator = none := by
  cases hslot : c.slots.lookup locator with
  | none => rfl
  | some flight =>
      obtain ⟨i, request, hi, rfl, hopen⟩ := h.wanted hslot
      obtain ⟨f, hf, hlocator⟩ := h.held hslot
      obtain ⟨result, hreturned⟩ := hquiet i request f hi hf hlocator
      exact absurd hreturned (hopen result)

theorem startsAnew (h : c.Coalesced) (hquiet : c.Quiet locator) : c.StartsAnew locator := by
  have hslot := h.lookup_of_quiet hquiet
  have hnext : c.nextFlight locator = c.flights.length := by
    rw [nextFlight, hslot]
    rfl
  have hmade : (c.request locator).flights = c.flights ++ [.ofLocator locator] := by
    simp only [Coalescer.request, hslot]
  refine ⟨hnext, hmade, ?_⟩
  intro c' flight result hreaches hreturned
  have hc' := hreaches.coalesced (h.request locator)
  have hnew : (c.request locator).flights[c.flights.length]? = some (.ofLocator locator) := by
    rw [hmade]
    exact List.getElem?_concat_length
  obtain ⟨f, hf, -, hfetches⟩ := hreaches.grows.flights hnew
  obtain ⟨state, hstate, htold⟩ := (h.serves hreaches).request
  obtain ⟨rfl, rfl⟩ := Request.mk.inj (Option.some.inj (hstate.symm.trans hreturned))
  have hlanded := htold result rfl
  rw [hnext, Coalescer.result?, hf] at hlanded
  have hone := (hc'.counted f (List.mem_of_getElem? hf)).fetches_of_result? hlanded
  have hsame : (c.request locator).fetches = c.fetches := by
    rw [fetches, hmade]
    exact fetchesOf_concat c.flights (.ofLocator locator)
  have hzero : (Flight.ofLocator locator : Flight ρ).fetches = 0 := rfl
  omega

end Coalesced

/-- What requests can rely on, and those who count the fetches. -/
structure SharesFlights (c : Coalescer ρ) : Prop where
  /-- A locator has at most one flight in the air. -/
  alone : ∀ (flight other : Nat) (f g : Flight ρ), c.flights[flight]? = some f →
    c.flights[other]? = some g → f.locator = g.locator → f.result? = none → g.result? = none →
    flight = other
  /-- A request joins the flight in the air, if there is one. -/
  joins : ∀ (flight : Nat) (f : Flight ρ), c.flights[flight]? = some f → f.result? = none →
    c.nextFlight f.locator = flight
  /-- A flight fetches at most once, and has fetched once when it has landed. -/
  once : ∀ f ∈ c.flights, f.fetches ≤ 1 ∧ ∀ result, f.result? = some result → f.fetches = 1
  /-- A flight lands once. -/
  stays : ∀ (c' : Coalescer ρ) (flight : Nat) (result : ρ), c.Reaches c' →
    c.result? flight = some result → c'.result? flight = some result
  fetches : c.fetches ≤ c.flights.length
  /-- A request that is made now returns, if it ever does, with the result of the flight that it
  joins. -/
  serves : ∀ (locator : String) (c' : Coalescer ρ), (c.request locator).Reaches c' →
    c'.Serves c.requests.length (c.nextFlight locator) locator
  /-- A request that is answered leaves all flights but its own in their slots. -/
  answers : ∀ (i : Nat) (locator : String) (other : Nat), c.slots.lookup locator = some other →
    (∀ request, c.requests[i]? = some request → request.flight ≠ other) →
    (c.answer i).slots.lookup locator = some other
  /-- If all requests of a locator have returned, and so none of them was dropped, the next one
  fetches again. -/
  anew : ∀ locator, c.Quiet locator → c.StartsAnew locator

/-- **Requests for one locator share a flight**, in whatever order requests come, flights begin
their fetches and land, and requests are answered or dropped. -/
theorem requests_share_flights (h : (empty : Coalescer ρ).Reaches c) : c.SharesFlights := by
  have hc := h.coalesced .empty
  refine ⟨?_, ?_, ?_, ?_, fetchesOf_le_length hc.counted, ?_, ?_, ?_⟩
  · intro flight other f g hf hg hlocator hair hair'
    exact hc.unique hf hg hlocator hair hair'
  · intro flight f hf hair
    rw [nextFlight, hc.slot hf hair, Option.getD_some]
  · intro f hf
    have hcounted := hc.counted f hf
    exact ⟨hcounted.fetches_le, fun result => hcounted.fetches_of_result?⟩
  · intro c' flight result hreaches hresult
    exact hreaches.grows.result? hresult
  · intro locator c' hreaches
    exact hc.serves hreaches
  · intro i locator other hslot hne
    exact slots_answer_of_ne hslot hne
  · intro locator hquiet
    exact hc.startsAnew hquiet

/-- Two requests share a flight. The first is answered, and a third request comes before the
second is. -/
def lateSecond : Coalescer Nat :=
  ((((((empty.request "m").request "m").beginFetch 0).land 0 7).answer 0).request "m")

/-- The second and the third request are answered, too. -/
def allAnswered : Coalescer Nat := (((lateSecond.answer 1).beginFetch 1).land 1 8).answer 2

theorem reaches_lateSecond : (empty : Coalescer Nat).Reaches lateSecond :=
  .step (.step (.step (.step (.step (.step .start (.request "m" _)) (.request "m" _))
    (.beginFetch 0 _)) (.land 0 7 _)) (.answer 0 _)) (.request "m" _)

theorem reaches_allAnswered : (empty : Coalescer Nat).Reaches allAnswered :=
  .step (.step (.step (.step reaches_lateSecond (.answer 1 _)) (.beginFetch 1 _)) (.land 1 8 _))
    (.answer 2 _)

theorem quiet_allAnswered : allAnswered.Quiet "m" := by
  have hrequests : allAnswered.requests =
      [⟨0, .returned 7⟩, ⟨0, .returned 7⟩, ⟨1, .returned 8⟩] := rfl
  intro i request f hi hf hlocator
  have hmem := List.mem_of_getElem? hi
  rw [hrequests] at hmem
  simp only [List.mem_cons, List.not_mem_nil, or_false] at hmem
  obtain rfl | rfl | rfl := hmem
  · exact ⟨7, rfl⟩
  · exact ⟨7, rfl⟩
  · exact ⟨8, rfl⟩

/-- The second request leaves the flight of the third in its slot, and after all of them a fourth
request fetches again. -/
theorem late_second_leaves_third :
    (lateSecond.answer 1).slots.lookup "m" = some 1 ∧ lateSecond.nextFlight "m" = 1 ∧
      allAnswered.StartsAnew "m" := by
  have hlate := requests_share_flights reaches_lateSecond
  have hall := requests_share_flights reaches_allAnswered
  refine ⟨hlate.answers 1 "m" 1 rfl ?_, hlate.joins 1 (.ofLocator "m") rfl rfl,
    hall.anew "m" quiet_allAnswered⟩
  intro request hrequest
  obtain rfl := Option.some.inj hrequest
  decide

/-- A request that is dropped after its flight landed leaves the flight in its slot, so that the
next request is not quiet and joins a flight that has landed. -/
example :
    let dropped : Coalescer Nat := (((empty.request "m").beginFetch 0).land 0 7).drop 0
    dropped.nextFlight "m" = 0 ∧ dropped.result? 0 = some 7 := ⟨rfl, rfl⟩

end Coalescer

end ModelRegistry
