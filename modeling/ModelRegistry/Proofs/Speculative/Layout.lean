import ModelRegistry.Speculative.HiddenStates

/-!
# ModelRegistry.Proofs.Speculative.Layout

The symbolic walk of an adapter foretells what the adapter does to tensors. The
walk carries a layout through the steps, `applySteps` carries a tensor; what ties
them together is `Tensor.Lies`: after every step the last dimension of the tensor
is the width of the layout, the width is positive, and the leading dimensions are
those of the input.

One lemma per step (`stepWidth?_of_advance`) keeps the tie, and an induction over
the steps carries it to the end (`applySteps_of_walkSteps`).
-/

namespace ModelRegistry

/-! ## Sizes -/

theorem toNat_pos_of_ne_zero {size : UInt64} (h : size ≠ 0) : 0 < size.toNat :=
  Nat.pos_of_ne_zero fun hzero => h (UInt64.toNat_inj.mp hzero)

theorem sizeSum?_eq_some_iff {x y sum : UInt64} :
    sizeSum? x y = some sum ↔ sum.toNat = x.toNat + y.toNat := by
  rw [sizeSum?]
  constructor
  · intro h
    split at h
    · next hword =>
      obtain rfl := Option.some.inj h
      rw [UInt64.toNat_add, Nat.mod_eq_of_lt hword]
    · contradiction
  · intro h
    have hword : x.toNat + y.toNat < UInt64.size := h ▸ sum.toNat_lt_size
    rw [if_pos hword]
    congr 1
    apply UInt64.toNat_inj.mp
    rw [UInt64.toNat_add, Nat.mod_eq_of_lt hword, h]

theorem sizeSum?_eq_none_iff {x y : UInt64} :
    sizeSum? x y = none ↔ UInt64.size ≤ x.toNat + y.toNat := by
  simp [sizeSum?]

/-! ## Steps -/

namespace Step

/-- The range is not empty and lies inside a row of this width. -/
def InRange (start length width : UInt64) : Prop :=
  1 ≤ length.toNat ∧ start.toNat + length.toNat ≤ width.toNat

/-- The range is not empty and its end is no word. -/
def Overflows (start length : UInt64) : Prop :=
  1 ≤ length.toNat ∧ UInt64.size ≤ start.toNat + length.toNat

/-- If the step narrows, the end of the range is a word. -/
def IsBounded : Step → Prop
  | .narrow start length => start.toNat + length.toNat < UInt64.size
  | _ => True

instance (start length width : UInt64) : Decidable (InRange start length width) :=
  inferInstanceAs (Decidable (_ ∧ _))

instance (start length : UInt64) : Decidable (Overflows start length) :=
  inferInstanceAs (Decidable (_ ∧ _))

theorem not_overflows_of_inRange {start length width : UInt64} (h : InRange start length width) :
    ¬Overflows start length := by
  intro hover
  have hword : start.toNat + length.toNat < UInt64.size :=
    Nat.lt_of_le_of_lt h.2 width.toNat_lt_size
  exact Nat.not_lt.mpr hover.2 hword

/-- A narrowing is taken inside the row. Outside of it the program stops if the end of the range
is no word, and the walk does if it is one. -/
theorem advance_narrow (start length : UInt64) (l : Layout) :
    (narrow start length).advance l =
      if InRange start length l.width then .ok ⟨length, .none⟩
      else if Overflows start length then .error (.halt .overflow)
      else .error (.fault (.narrow start (start + length) l.width)) := by
  rw [advance]
  by_cases hempty : length = 0
  · subst hempty
    have hin : ¬InRange start 0 l.width := fun h => Nat.not_succ_le_zero 0 h.1
    have hover : ¬Overflows start 0 := fun h => Nat.not_succ_le_zero 0 h.1
    rw [if_pos rfl, if_neg hin, if_neg hover, UInt64.add_zero]
  · have hpos : 1 ≤ length.toNat := toNat_pos_of_ne_zero hempty
    rw [if_neg hempty]
    cases hsum : sizeSum? start length with
    | none =>
        have hover : Overflows start length := ⟨hpos, sizeSum?_eq_none_iff.mp hsum⟩
        have hin : ¬InRange start length l.width := fun h => not_overflows_of_inRange h hover
        rw [if_neg hin, if_pos hover]
    | some stop =>
        have hstop := sizeSum?_eq_some_iff.mp hsum
        have hover : ¬Overflows start length := by
          intro h
          exact Nat.not_lt.mpr h.2 (hstop ▸ stop.toNat_lt_size)
        have hend : start + length = stop := by
          apply UInt64.toNat_inj.mp
          rw [UInt64.toNat_add, ← hstop, Nat.mod_eq_of_lt stop.toNat_lt_size]
        simp only [UInt64.lt_iff_toNat_lt, hstop]
        by_cases hpast : l.width.toNat < start.toNat + length.toNat
        · have hin : ¬InRange start length l.width := fun h => Nat.not_le.mpr hpast h.2
          rw [if_pos hpast, if_neg hin, if_neg hover, hend]
        · rw [if_neg hpast, if_pos ⟨hpos, Nat.not_lt.mp hpast⟩]

/-- A narrowing that the walk takes lies inside the row. -/
theorem inRange_of_advance {start length : UInt64} {l next : Layout}
    (h : (narrow start length).advance l = .ok next) :
    InRange start length l.width ∧ next = ⟨length, .none⟩ := by
  rw [advance_narrow] at h
  split at h
  · next hin => exact ⟨hin, (Except.ok.inj h).symm⟩
  · split at h
    · contradiction
    · contradiction

/-- The program stops at no step but a narrowing whose end is no word. -/
theorem overflows_of_advance {s : Step} {l : Layout} {reason : Halt}
    (h : s.advance l = .error (.halt reason)) :
    ∃ start length, s = .narrow start length ∧ Overflows start length := by
  cases s with
  | narrow start length =>
      rw [advance_narrow] at h
      split at h
      · contradiction
      · split at h
        · next hover => exact ⟨start, length, rfl, hover⟩
        · cases h
  | identity => cases h
  | _ =>
      -- The guards of the other steps lead to a layout or to a fault.
      rw [advance] at h
      repeat' split at h
      all_goals cases h

/-- A step that the walk takes is one that the tensor allows, with the width that the walk says;
and from a positive width it leads to a positive one. -/
theorem stepWidth?_of_advance {s : Step} {l next : Layout}
    (hl : 0 < l.width.toNat) (h : s.advance l = .ok next) :
    Tensor.stepWidth? l.width.toNat s = some next.width.toNat ∧ 0 < next.width.toNat := by
  cases s with
  | identity =>
      obtain rfl : l = next := by simpa [advance] using h
      exact ⟨rfl, hl⟩
  | narrow start length =>
      obtain ⟨hin, rfl⟩ := inRange_of_advance h
      rw [Tensor.stepWidth?, if_pos hin.2]
      exact ⟨rfl, hin.1⟩
  | chunkMean chunks =>
      rw [advance] at h
      split at h
      · contradiction
      · next hguard =>
        obtain rfl := Except.ok.inj h
        rw [not_or, Decidable.not_not] at hguard
        have hmod : l.width.toNat % chunks.toNat = 0 := by
          rw [← UInt64.toNat_mod, hguard.2]
          rfl
        rw [Tensor.stepWidth?, if_pos ⟨hguard.1, hmod⟩, UInt64.toNat_div]
        have hle : chunks.toNat ≤ l.width.toNat :=
          Nat.le_of_dvd hl (Nat.dvd_of_mod_eq_zero hmod)
        exact ⟨rfl, Nat.div_pos hle (toNat_pos_of_ne_zero hguard.1)⟩
  | rmsNorm eps =>
      rw [advance] at h
      split at h
      · obtain rfl := Except.ok.inj h
        exact ⟨rfl, hl⟩
      · contradiction
  | scale factor =>
      rw [advance] at h
      split at h
      · contradiction
      · split at h
        · obtain rfl := Except.ok.inj h
          exact ⟨rfl, hl⟩
        · obtain rfl := Except.ok.inj h
          exact ⟨rfl, hl⟩

end Step

/-! ## The symbolic walk -/

namespace Adapter

/-- The layout in which the walk starts. -/
def native (a : Adapter) : Layout := ⟨a.nativeWidth, a.nativeNorm⟩

/-- The walk stops at the step of this index, for this reason, and takes all steps before it. An
adapter without a native width stops before its first step. -/
inductive StopsAt (a : Adapter) : Nat → StepError → Prop where
  | native : a.nativeWidth = 0 → StopsAt a 0 (.fault .emptyNative)
  | step {before after : List Step} {s : Step} {reached : Layout} {e : StepError} :
      a.nativeWidth ≠ 0 → a.steps = before ++ s :: after →
      walkSteps 0 a.native before = .ok reached → s.advance reached = .error e →
      StopsAt a before.length e

end Adapter

theorem walkSteps_eq_error {index : Nat} {l : Layout} {steps : List Step} {e : AdapterError}
    (h : walkSteps index l steps = .error e) :
    ∃ before s after reached reason, steps = before ++ s :: after ∧
      walkSteps index l before = .ok reached ∧ s.advance reached = .error reason ∧
      e = reason.toAdapterError (index + before.length) := by
  induction steps generalizing index l with
  | nil => simp [walkSteps] at h
  | cons s rest ih =>
      rw [walkSteps] at h
      cases hs : s.advance l with
      | error reason =>
          simp only [hs] at h
          exact ⟨[], s, rest, l, reason, rfl, rfl, hs, (Except.error.inj h).symm⟩
      | ok next =>
          simp only [hs] at h
          obtain ⟨before, t, after, reached, reason, rfl, hwalk, hstop, rfl⟩ := ih h
          refine ⟨s :: before, t, after, reached, reason, rfl, ?_, hstop, ?_⟩
          · rw [walkSteps, hs]
            exact hwalk
          · rw [List.length_cons]
            congr 1
            omega

/-- A walk that comes to its end takes its first step, and comes to its end from there. -/
theorem exists_next_of_walkSteps {index : Nat} {l last : Layout} {s : Step} {rest : List Step}
    (h : walkSteps index l (s :: rest) = .ok last) :
    ∃ next, s.advance l = .ok next ∧ walkSteps (index + 1) next rest = .ok last := by
  rw [walkSteps] at h
  cases hs : s.advance l with
  | error fault => simp [hs] at h
  | ok next =>
      simp only [hs] at h
      exact ⟨next, rfl, h⟩

/-- A walk that comes to its end takes every step. -/
theorem exists_advance_of_mem {index : Nat} {l last : Layout} {steps : List Step}
    (h : walkSteps index l steps = .ok last) {s : Step} (hs : s ∈ steps) :
    ∃ reached next, s.advance reached = .ok next := by
  induction steps generalizing index l with
  | nil => contradiction
  | cons first rest ih =>
      obtain ⟨next, hfirst, hrest⟩ := exists_next_of_walkSteps h
      rcases List.mem_cons.mp hs with rfl | hs
      · exact ⟨l, next, hfirst⟩
      · exact ih hrest hs

theorem width_pos_of_walkSteps {index : Nat} {l last : Layout} {steps : List Step}
    (hl : 0 < l.width.toNat) (h : walkSteps index l steps = .ok last) :
    0 < last.width.toNat := by
  induction steps generalizing index l with
  | nil =>
      obtain rfl := Except.ok.inj h
      exact hl
  | cons s rest ih =>
      obtain ⟨next, hs, hrest⟩ := exists_next_of_walkSteps h
      exact ih (Step.stepWidth?_of_advance hl hs).2 hrest

/-- The walk of an adapter starts from a positive width. -/
theorem Adapter.walkSteps_of_produced {a : Adapter} {layout : Layout}
    (h : a.produced = .ok layout) :
    0 < a.native.width.toNat ∧ walkSteps 0 a.native a.steps = .ok layout := by
  rw [produced] at h
  split at h
  · contradiction
  · next hne => exact ⟨toNat_pos_of_ne_zero hne, h⟩

/-- The walk reports nothing but the first step that cannot be taken. -/
theorem Adapter.stopsAt_of_produced {a : Adapter} {e : AdapterError}
    (h : a.produced = .error e) :
    ∃ index reason, e = reason.toAdapterError index ∧ a.StopsAt index reason := by
  rw [produced] at h
  by_cases hwidth : a.nativeWidth = 0
  · rw [if_pos hwidth] at h
    exact ⟨0, .fault .emptyNative, (Except.error.inj h).symm, .native hwidth⟩
  · rw [if_neg hwidth] at h
    obtain ⟨before, s, after, reached, reason, hsplit, hwalk, hstop, rfl⟩ := walkSteps_eq_error h
    refine ⟨before.length, reason, ?_, .step hwidth hsplit hwalk hstop⟩
    rw [Nat.zero_add]

/-- Where the program stops in a walk, it has come to a narrowing whose end is no word. -/
theorem Adapter.StopsAt.overflows {a : Adapter} {index : Nat} {reason : Halt}
    (h : a.StopsAt index (.halt reason)) :
    ∃ before after start length reached, index = before.length ∧ a.nativeWidth ≠ 0 ∧
      a.steps = before ++ .narrow start length :: after ∧
      walkSteps 0 a.native before = .ok reached ∧ Step.Overflows start length := by
  cases h with
  | @step before after s reached _ hnative hsplit hwalk hstop =>
      obtain ⟨start, length, rfl, hover⟩ := Step.overflows_of_advance hstop
      exact ⟨before, after, start, length, reached, rfl, hnative, hsplit, hwalk, hover⟩

/-- If the ends of all ranges are words, the walk stops at faults only. -/
theorem Adapter.StopsAt.exists_fault {a : Adapter} (ha : ∀ s ∈ a.steps, s.IsBounded)
    {index : Nat} {reason : StepError} (h : a.StopsAt index reason) :
    ∃ fault, reason = .fault fault := by
  cases reason with
  | fault fault => exact ⟨fault, rfl⟩
  | halt reason =>
      obtain ⟨before, after, start, length, -, -, -, hsplit, -, hover⟩ := h.overflows
      have hmem : .narrow start length ∈ a.steps := by simp [hsplit]
      exact absurd hover.2 (Nat.not_le.mpr (ha _ hmem))

/-- A valid adapter is one that produces the layout that it declares. -/
theorem Adapter.validate_eq_ok_iff {a : Adapter} :
    a.validate = .ok () ↔ a.produced = .ok a.shared := by
  rw [validate]
  cases a.produced with
  | error e => simp
  | ok layout => by_cases h : layout = a.shared <;> simp [h]

/-- The program stops in a check only if it does in the walk. -/
theorem Adapter.produced_of_validate_halt {a : Adapter} {reason : Halt}
    (h : a.validate = .error (.halt reason)) : a.produced = .error (.halt reason) := by
  rw [validate] at h
  split at h
  · next e he =>
    obtain rfl := Except.error.inj h
    exact he
  · split at h
    · cases h
    · cases h

/-! ## Tensors -/

namespace Tensor

variable {α σ : Type}

/-- The tensor has as many elements as its shape says. -/
def IsFilled (t : Tensor α) : Prop := t.data.size = sizeOf t.shape

theorem sizeOf_cons (size : Nat) (shape : List Nat) :
    sizeOf (size :: shape) = size * sizeOf shape := rfl

theorem sizeOf_append_list (leading tail : List Nat) :
    sizeOf (leading ++ tail) = sizeOf leading * sizeOf tail := by
  induction leading with
  | nil => simp [sizeOf]
  | cons size rest ih => rw [List.cons_append, sizeOf_cons, sizeOf_cons, ih, Nat.mul_assoc]

theorem sizeOf_append (leading : List Nat) (width : Nat) :
    sizeOf (leading ++ [width]) = sizeOf leading * width := by
  rw [sizeOf_append_list]
  simp [sizeOf]

theorem isFilled_ofRows (leading : List Nat) (width : Nat) (element : Nat → Nat → α) :
    (ofRows leading width element).IsFilled := by
  simp [IsFilled, ofRows, sizeOf_append]

/-- The tensor lies in the layout: it has these leading dimensions, its rows have the width of
the layout, and they are not empty. -/
structure Lies (t : Tensor α) (leading : List Nat) (l : Layout) : Prop where
  shape : t.shape = leading ++ [l.width.toNat]
  width_pos : 0 < l.width.toNat

theorem Lies.width? {t : Tensor α} {leading : List Nat} {l : Layout} (h : t.Lies leading l) :
    t.width? = some l.width.toNat := by
  rw [Tensor.width?, h.shape, List.getLast?_concat]

/-- A step that the walk takes can be applied, and the result lies in the next layout. -/
theorem applyStep_of_advance (E : Elements α σ) {t : Tensor α} {leading : List Nat}
    {l next : Layout} {s : Step} (ht : t.Lies leading l) (h : s.advance l = .ok next) :
    ∃ out, applyStep E t s = .ok out ∧ out.Lies leading next ∧ out.IsFilled := by
  obtain ⟨hwidth, hpos⟩ := Step.stepWidth?_of_advance ht.width_pos h
  rw [applyStep, ht.width?]
  simp only [hwidth]
  refine ⟨_, rfl, ⟨?_, hpos⟩, isFilled_ofRows _ _ _⟩
  rw [ofRows, ht.shape, List.dropLast_concat]

theorem applySteps_of_walkSteps (E : Elements α σ) {index : Nat} {t : Tensor α}
    {leading : List Nat} {l last : Layout} {steps : List Step} (ht : t.Lies leading l)
    (h : walkSteps index l steps = .ok last) :
    ∃ out, applySteps E t steps = .ok out ∧ out.Lies leading last ∧
      (t.IsFilled → out.IsFilled) := by
  induction steps generalizing index l t with
  | nil =>
      obtain rfl := Except.ok.inj h
      exact ⟨t, rfl, ht, id⟩
  | cons s rest ih =>
      obtain ⟨next, hs, hrest⟩ := exists_next_of_walkSteps h
      obtain ⟨mid, hmid, hlies, hfilled⟩ := applyStep_of_advance E ht hs
      obtain ⟨out, hout, hlast, hkeeps⟩ := ih hlies hrest
      refine ⟨out, ?_, hlast, fun _ => hkeeps hfilled⟩
      rw [applySteps, hmid]
      exact hout

end Tensor

/-! ## Adapters -/

namespace Adapter

variable {α σ : Type}

theorem chunks_ne_zero_of_produced {a : Adapter} {layout : Layout} (h : a.produced = .ok layout)
    {chunks : UInt64} (hmem : .chunkMean chunks ∈ a.steps) : chunks ≠ 0 := by
  obtain ⟨reached, next, hnext⟩ := exists_advance_of_mem (walkSteps_of_produced h).2 hmem
  intro hzero
  simp [Step.advance, hzero] at hnext

theorem apply_of_produced_error (E : Elements α σ) {a : Adapter} {e : AdapterError}
    (h : a.produced = .error e) (t : Tensor α) : a.apply E t = .error e := by
  rw [apply, h]

theorem apply_of_width_ne (E : Elements α σ) {a : Adapter} {layout : Layout}
    (h : a.produced = .ok layout) {t : Tensor α} {leading : List Nat} {width : Nat}
    (ht : t.shape = leading ++ [width]) (hne : width ≠ a.nativeWidth.toNat) :
    a.apply E t = .error (.widthMismatch a.nativeWidth.toNat width) := by
  have hwidth : t.width? = some width := by rw [Tensor.width?, ht, List.getLast?_concat]
  rw [apply, h, hwidth]
  simp only [ne_eq, hne, not_false_eq_true, if_true]

theorem apply_of_produced (E : Elements α σ) {a : Adapter} {layout : Layout}
    (h : a.produced = .ok layout) {t : Tensor α} {leading : List Nat}
    (ht : t.shape = leading ++ [a.nativeWidth.toNat]) :
    ∃ out, a.apply E t = .ok out ∧ out.Lies leading layout ∧ (t.IsFilled → out.IsFilled) := by
  obtain ⟨hpos, hwalk⟩ := walkSteps_of_produced h
  have hlies : t.Lies leading a.native := ⟨ht, hpos⟩
  rw [apply, h, hlies.width?]
  simp only [native, ne_eq, not_true_eq_false, if_false]
  exact Tensor.applySteps_of_walkSteps E hlies hwalk

end Adapter

/-! ## Hidden states -/

/-- The types of elements. -/
inductive ElementType where
  | single | double
  deriving DecidableEq, Repr

namespace HiddenStates

/-- The type of the elements. -/
def elementType : HiddenStates → ElementType
  | .single _ => .single
  | .double _ => .double

/-- The dimensions. -/
def shape : HiddenStates → List Nat
  | .single t => t.shape
  | .double t => t.shape

/-- The hidden states have as many elements as their shape says. -/
def IsFilled : HiddenStates → Prop
  | .single t => t.IsFilled
  | .double t => t.IsFilled

end HiddenStates

namespace Adapter

theorem translate_of_produced_error {a : Adapter} {e : AdapterError}
    (h : a.produced = .error e) (t : HiddenStates) : a.translate t = .error e := by
  cases t with
  | single t | double t => rw [translate, apply_of_produced_error _ h]

theorem translate_of_width_ne {a : Adapter} {layout : Layout} (h : a.produced = .ok layout)
    {t : HiddenStates} {leading : List Nat} {width : Nat} (ht : t.shape = leading ++ [width])
    (hne : width ≠ a.nativeWidth.toNat) :
    a.translate t = .error (.widthMismatch a.nativeWidth.toNat width) := by
  cases t with
  | single t | double t => rw [translate, apply_of_width_ne _ h ht hne]

theorem translate_of_produced {a : Adapter} {layout : Layout} (h : a.produced = .ok layout)
    {t : HiddenStates} {leading : List Nat} (ht : t.shape = leading ++ [a.nativeWidth.toNat]) :
    ∃ out, a.translate t = .ok out ∧ out.elementType = t.elementType ∧
      out.shape = leading ++ [layout.width.toNat] ∧ (t.IsFilled → out.IsFilled) := by
  cases t with
  | single t =>
      obtain ⟨out, hout, hlies, hfilled⟩ := apply_of_produced .singlePrecision h ht
      exact ⟨.single out, by rw [translate, hout], rfl, hlies.shape, hfilled⟩
  | double t =>
      obtain ⟨out, hout, hlies, hfilled⟩ := apply_of_produced .doublePrecision h ht
      exact ⟨.double out, by rw [translate, hout], rfl, hlies.shape, hfilled⟩

/-- **The walk foretells the tensors**: an adapter with a produced layout takes every tensor of
its native width, whatever the leading dimensions, to one of that layout's width, with the
leading dimensions and the element type kept, and a tensor of another width is refused as such.
An adapter without a produced layout refuses every tensor with the error of the walk. If the ends
of all ranges are words, that is the error of the first step that cannot be taken. -/
theorem translate_follows_layout (a : Adapter) :
    (∀ layout, a.produced = .ok layout →
      1 ≤ layout.width.toNat ∧ (∀ chunks, .chunkMean chunks ∈ a.steps → chunks ≠ 0) ∧
      (∀ (t : HiddenStates) (leading : List Nat), t.shape = leading ++ [a.nativeWidth.toNat] →
        ∃ out, a.translate t = .ok out ∧ out.elementType = t.elementType ∧
          out.shape = leading ++ [layout.width.toNat] ∧ (t.IsFilled → out.IsFilled)) ∧
      ∀ (t : HiddenStates) (leading : List Nat) (width : Nat), t.shape = leading ++ [width] →
        width ≠ a.nativeWidth.toNat →
        a.translate t = .error (.widthMismatch a.nativeWidth.toNat width)) ∧
    ∀ e, a.produced = .error e →
      ((∀ s ∈ a.steps, s.IsBounded) →
        ∃ index fault, e = .invalidStep index fault ∧ a.StopsAt index (.fault fault)) ∧
      ∀ t : HiddenStates, a.translate t = .error e := by
  constructor
  · intro layout h
    obtain ⟨hpos, hwalk⟩ := walkSteps_of_produced h
    exact ⟨width_pos_of_walkSteps hpos hwalk, fun chunks => chunks_ne_zero_of_produced h,
      fun t leading ht => translate_of_produced h ht,
      fun t leading width ht hne => translate_of_width_ne h ht hne⟩
  · intro e h
    refine ⟨?_, translate_of_produced_error h⟩
    intro ha
    obtain ⟨index, reason, rfl, hstop⟩ := stopsAt_of_produced h
    obtain ⟨fault, rfl⟩ := hstop.exists_fault ha
    exact ⟨index, fault, rfl, hstop⟩

/-- Folds three concatenated layers, keeps four of their eight elements and doubles them. -/
def threeLayers : Adapter :=
  ⟨24, .none, [.chunkMean 3, .narrow 2 4, .scale ⟨0x4000000000000000⟩], ⟨4, .none⟩⟩

/-- Folds three concatenated layers, and keeps more of their eight elements than there are. -/
def threeLayersNarrowed : Adapter := ⟨24, .none, [.chunkMean 3, .narrow 2 7], ⟨7, .none⟩⟩

theorem translate_three_layers :
    (∃ out, threeLayers.translate (.double ⟨[2, 5, 24], Array.replicate 240 0⟩) = .ok out ∧
      out.shape = [2, 5, 4]) ∧
    ∃ index fault, AdapterError.invalidStep 1 (.narrow 2 9 8) = .invalidStep index fault ∧
      threeLayersNarrowed.StopsAt index (.fault fault) := by
  constructor
  · obtain ⟨-, -, htakes, -⟩ := (translate_follows_layout threeLayers).1 ⟨4, .none⟩ rfl
    obtain ⟨out, hout, -, hshape, -⟩ :=
      htakes (.double ⟨[2, 5, 24], Array.replicate 240 0⟩) [2, 5] rfl
    exact ⟨out, hout, hshape⟩
  · apply ((translate_follows_layout threeLayersNarrowed).2 _ rfl).1
    simp [threeLayersNarrowed, Step.IsBounded, UInt64.size]

end Adapter

end ModelRegistry
