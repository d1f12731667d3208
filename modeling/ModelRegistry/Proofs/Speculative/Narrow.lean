import ModelRegistry.Proofs.Speculative.Layout

/-!
# ModelRegistry.Proofs.Speculative.Narrow

Which ranges the walk of an adapter lets a narrowing keep. It takes those inside the
row. Every other one is refused where it stands if its end is a word; if it is none,
the program stops at the sum of `start` and `length`, whatever the adapter was asked
for, and it stops nowhere else.

So there is an answer for every range but those whose end is no word, and the tensors
are asked for ranges inside their rows only.
-/

namespace ModelRegistry

/-! ## The walk, in two parts -/

theorem walkSteps_append (index : Nat) (l : Layout) (before after : List Step) :
    walkSteps index l (before ++ after) =
      (walkSteps index l before).bind fun reached =>
        walkSteps (index + before.length) reached after := by
  induction before generalizing index l with
  | nil => rfl
  | cons s rest ih =>
      rw [List.cons_append, walkSteps, walkSteps]
      cases s.advance l with
      | error fault => rfl
      | ok next =>
          simp only [ih, List.length_cons]
          congr 2
          funext reached
          congr 1
          omega

/-- A walk to the end goes through every place of the list. -/
theorem exists_reached {index : Nat} {l last : Layout} {before after : List Step}
    (h : walkSteps index l (before ++ after) = .ok last) :
    ∃ reached, walkSteps index l before = .ok reached ∧
      walkSteps (index + before.length) reached after = .ok last := by
  rw [walkSteps_append] at h
  cases hbefore : walkSteps index l before with
  | error e =>
      rw [hbefore] at h
      contradiction
  | ok reached =>
      rw [hbefore] at h
      exact ⟨reached, rfl, h⟩

/-! ## Adapters -/

namespace Adapter

open Step (InRange Overflows)

variable {α σ : Type}

/-- The walk of the adapter takes the steps `before` and comes to this narrowing, the layout
being this wide. -/
structure ComesTo (a : Adapter) (before : List Step) (start length width : UInt64) : Prop where
  native : a.nativeWidth ≠ 0
  steps : ∃ after, a.steps = before ++ .narrow start length :: after
  walked : ∃ norm, walkSteps 0 a.native before = .ok ⟨width, norm⟩

/-- The walk goes on from this narrowing, which comes after `before`. -/
def Takes (a : Adapter) (before : List Step) (start length : UInt64) : Prop :=
  walkSteps 0 a.native (before ++ [.narrow start length]) = .ok ⟨length, .none⟩

/-- Whatever the adapter is asked for, this error is the answer. -/
structure Fails (a : Adapter) (e : AdapterError) : Prop where
  produced : a.produced = .error e
  validate : a.validate = .error e
  translate (t : HiddenStates) : a.translate t = .error e

/-- Applied to the tensor, the adapter comes to the tensor operation of this step, with `mid`
made of the tensor by the steps before it. -/
structure Performs (a : Adapter) (E : Elements α σ) (t : Tensor α) (s : Step)
    (mid : Tensor α) : Prop where
  produced : ∃ layout, a.produced = .ok layout
  width : t.width? = some a.nativeWidth.toNat
  steps : ∃ before after, a.steps = before ++ s :: after ∧ t.applySteps E before = .ok mid

theorem fails_of_produced {a : Adapter} {e : AdapterError} (h : a.produced = .error e) :
    a.Fails e where
  produced := h
  validate := by rw [validate, h]
  translate := translate_of_produced_error h

theorem ComesTo.takes {a : Adapter} {before : List Step} {start length width : UInt64}
    (h : a.ComesTo before start length width) (hin : InRange start length width) :
    a.Takes before start length := by
  obtain ⟨norm, hwalk⟩ := h.walked
  rw [Takes, walkSteps_append, hwalk, Except.bind, walkSteps, Step.advance_narrow, if_pos hin]
  rfl

/-- A narrowing that the walk does not take fails the adapter. -/
theorem ComesTo.fails {a : Adapter} {before : List Step} {start length width : UInt64}
    {e : StepError} (h : a.ComesTo before start length width)
    (hstep : ∀ norm, (Step.narrow start length).advance ⟨width, norm⟩ = .error e) :
    a.Fails (e.toAdapterError before.length) := by
  obtain ⟨norm, hwalk⟩ := h.walked
  obtain ⟨after, hsteps⟩ := h.steps
  have hstop : walkSteps 0 a.native (before ++ .narrow start length :: after) =
      .error (e.toAdapterError before.length) := by
    rw [walkSteps_append, hwalk, Except.bind, walkSteps, hstep, Nat.zero_add]
  apply fails_of_produced
  rw [produced, if_neg h.native, hsteps]
  exact hstop

/-- An adapter that produces a layout comes to each of its narrowings, inside the row. -/
theorem comesTo_of_produced {a : Adapter} {layout : Layout} (h : a.produced = .ok layout)
    {before after : List Step} {start length : UInt64}
    (hsteps : a.steps = before ++ .narrow start length :: after) :
    ∃ width, a.ComesTo before start length width ∧ InRange start length width := by
  obtain ⟨hpos, hwalk⟩ := walkSteps_of_produced h
  rw [hsteps] at hwalk
  obtain ⟨reached, hbefore, hafter⟩ := exists_reached hwalk
  have hnative : a.nativeWidth ≠ 0 := by
    intro hzero
    simp [native, hzero] at hpos
  obtain ⟨next, hstep, -⟩ := exists_next_of_walkSteps hafter
  exact ⟨reached.width, ⟨hnative, ⟨after, hsteps⟩, reached.norm, hbefore⟩,
    (Step.inRange_of_advance hstep).1⟩

/-- If the program stops, the walk has come to a range whose end is no word. -/
theorem comesTo_of_halt {a : Adapter} {reason : Halt} (h : a.produced = .error (.halt reason)) :
    ∃ before start length width, a.ComesTo before start length width ∧
      Overflows start length := by
  obtain ⟨index, e, herror, hstop⟩ := stopsAt_of_produced h
  cases e with
  | fault fault => cases herror
  | halt reason' =>
      obtain ⟨before, after, start, length, reached, -, hnative, hsteps, hwalk, hover⟩ :=
        hstop.overflows
      exact ⟨before, start, length, reached.width, ⟨hnative, ⟨after, hsteps⟩, reached.norm, hwalk⟩,
        hover⟩

/-- The operations on tensors do not stop the program. -/
theorem applySteps_ne_halt (E : Elements α σ) (t : Tensor α) (steps : List Step) (reason : Halt) :
    t.applySteps E steps ≠ .error (.halt reason) := by
  induction steps generalizing t with
  | nil => exact fun h => by cases h
  | cons s rest ih =>
      rw [Tensor.applySteps]
      split
      · next next _ => exact ih next
      · next e he =>
        intro h
        obtain rfl := Except.error.inj h
        rw [Tensor.applyStep] at he
        split at he
        · cases he
        · split at he
          · cases he
          · cases he

theorem produced_of_apply_halt {E : Elements α σ} {a : Adapter} {t : Tensor α} {reason : Halt}
    (h : a.apply E t = .error (.halt reason)) : a.produced = .error (.halt reason) := by
  rw [apply] at h
  split at h
  · next e he =>
    obtain rfl := Except.error.inj h
    exact he
  · split at h
    · cases h
    · split at h
      · cases h
      · exact absurd h (applySteps_ne_halt E t a.steps reason)

theorem produced_of_translate_halt {a : Adapter} {t : HiddenStates} {reason : Halt}
    (h : a.translate t = .error (.halt reason)) : a.produced = .error (.halt reason) := by
  cases t with
  | single t | double t =>
      rw [translate] at h
      split at h
      · cases h
      · next e he =>
        obtain rfl := Except.error.inj h
        exact produced_of_apply_halt he

/-- The tensor that the steps `before` make of one of the native width is as wide as the layout
to which they lead the walk. -/
theorem ComesTo.width_of_applySteps {a : Adapter} {before : List Step}
    {start length width : UInt64} (h : a.ComesTo before start length width) (E : Elements α σ)
    {t : Tensor α} (ht : t.width? = some a.nativeWidth.toNat) :
    ∃ mid, t.applySteps E before = .ok mid ∧ mid.width? = some width.toNat := by
  obtain ⟨norm, hwalk⟩ := h.walked
  obtain ⟨leading, hshape⟩ := List.getLast?_eq_some_iff.mp ht
  have hlies : t.Lies leading a.native := ⟨hshape, toNat_pos_of_ne_zero h.native⟩
  obtain ⟨mid, hmid, hlies, -⟩ := Tensor.applySteps_of_walkSteps E hlies hwalk
  exact ⟨mid, hmid, hlies.width?⟩

/-- The ranges that reach the tensors lie inside their rows. -/
theorem Performs.inside {a : Adapter} {E : Elements α σ} {t mid : Tensor α}
    {start length : UInt64} (h : a.Performs E t (.narrow start length) mid) :
    ∃ width, mid.width? = some width ∧ 1 ≤ length.toNat ∧
      start.toNat + length.toNat ≤ width := by
  obtain ⟨layout, hlayout⟩ := h.produced
  obtain ⟨before, after, hsteps, hmid⟩ := h.steps
  obtain ⟨width, hcomes, hin⟩ := comesTo_of_produced hlayout hsteps
  obtain ⟨out, hout, hwidth⟩ := hcomes.width_of_applySteps E h.width
  obtain rfl : out = mid := Except.ok.inj (hout.symm.trans hmid)
  exact ⟨width.toNat, hwidth, hin⟩

/-- What the walk of an adapter makes of its narrowings. -/
structure ChecksRanges (a : Adapter) : Prop where
  /-- A range inside the row is taken. -/
  takes {before : List Step} {start length width : UInt64}
    (h : a.ComesTo before start length width) (hin : InRange start length width) :
    a.Takes before start length
  /-- Another range is reported at its step, if its end is a word. -/
  refuses {before : List Step} {start length width : UInt64}
    (h : a.ComesTo before start length width) (hin : ¬InRange start length width)
    (hover : ¬Overflows start length) :
    a.Fails (.invalidStep before.length (.narrow start (start + length) width))
  /-- At a range whose end is no word the program stops. -/
  halts {before : List Step} {start length width : UInt64}
    (h : a.ComesTo before start length width) (hover : Overflows start length) :
    ¬InRange start length width ∧ a.Fails (.halt .overflow)
  /-- It stops nowhere else. -/
  stops {reason : Halt}
    (h : a.produced = .error (.halt reason) ∨ a.validate = .error (.halt reason) ∨
      ∃ t, a.translate t = .error (.halt reason)) :
    ∃ before start length width, a.ComesTo before start length width ∧ Overflows start length
  /-- No tensor is asked for a range outside its rows. -/
  inside {α σ : Type} {E : Elements α σ} {t mid : Tensor α} {start length : UInt64}
    (h : a.Performs E t (.narrow start length) mid) :
    ∃ width, mid.width? = some width ∧ 1 ≤ length.toNat ∧ start.toNat + length.toNat ≤ width

/-- **Narrowings are checked by sums of words**: the walk of an adapter takes every range inside
the row, and refuses every other one at its step as long as its end is a word. It stops the program
exactly where the end is none. No range outside its rows reaches a tensor. -/
theorem narrow_checks_word_sums (a : Adapter) : a.ChecksRanges where
  takes h hin := h.takes hin
  refuses {before start length width} h hin hover := by
    apply h.fails (e := .fault (.narrow start (start + length) width))
    intro norm
    rw [Step.advance_narrow, if_neg hin, if_neg hover]
  halts {before start length width} h hover := by
    have hin : ¬InRange start length width := fun hin => Step.not_overflows_of_inRange hin hover
    refine ⟨hin, ?_⟩
    apply h.fails (e := .halt .overflow)
    intro norm
    rw [Step.advance_narrow, if_neg hin, if_pos hover]
  stops h := by
    obtain h | h | ⟨t, h⟩ := h
    · exact comesTo_of_halt h
    · exact comesTo_of_halt (produced_of_validate_halt h)
    · exact comesTo_of_halt (produced_of_translate_halt h)
  inside h := h.inside

/-- Keeps four of six features, from this one on. -/
def fourOfSix (start : UInt64) : Adapter := ⟨6, .none, [.narrow start 4], ⟨4, .none⟩⟩

theorem four_of_six_from_two_not_four :
    (fourOfSix 2).Takes [] 2 4 ∧
      (fourOfSix 4).validate = .error (.invalidStep 0 (.narrow 4 8 6)) ∧
      (fourOfSix 18446744073709551612).validate = .error (.halt .overflow) := by
  have hcomes (start : UInt64) : (fourOfSix start).ComesTo [] start 4 6 :=
    ⟨by simp [fourOfSix], ⟨[], rfl⟩, .none, rfl⟩
  refine ⟨?_, ?_, ?_⟩
  · exact (narrow_checks_word_sums (fourOfSix 2)).takes (hcomes 2) (by decide)
  · exact ((narrow_checks_word_sums (fourOfSix 4)).refuses (hcomes 4) (by decide)
      (by decide)).validate
  · obtain ⟨-, hfails⟩ := (narrow_checks_word_sums (fourOfSix 18446744073709551612)).halts
      (hcomes 18446744073709551612) (by decide)
    exact hfails.validate

/-- Keeps two of four features, from the last word on. -/
def pastLastWord : Adapter := ⟨4, .none, [.narrow 18446744073709551615 2], ⟨2, .none⟩⟩

/-- Two features from the last word on lie outside every row. The adapter that keeps them of four
is not refused at its step: whatever it is asked for, the program stops. -/
theorem past_last_word_halts :
    pastLastWord.ComesTo [] 18446744073709551615 2 4 ∧ ¬InRange 18446744073709551615 2 4 ∧
      pastLastWord.Fails (.halt .overflow) ∧
      ∀ index fault, pastLastWord.produced ≠ .error (.invalidStep index fault) := by
  have hproduced : pastLastWord.produced = .error (.halt .overflow) := rfl
  refine ⟨⟨?_, ⟨[], rfl⟩, .none, rfl⟩, ?_, fails_of_produced hproduced, ?_⟩
  · simp [pastLastWord]
  · decide
  · simp [hproduced]

end Adapter

end ModelRegistry
