import ModelRegistry.Proofs.Speculative.Operations

/-!
# ModelRegistry.Proofs.Speculative.Rows

An adapter acts on each row of a tensor by itself. On tensors that are given by
their rows, a step puts one function of rows in the place of each row, and it does
not matter how many rows there are (`applyStep_ofRows`). Along a walk these
functions compose (`exists_act_of_walkSteps`), and a tensor of one row is the case
without leading dimensions, so the law of a whole adapter follows by taking rows
apart (`row_ofRows`).
-/

namespace ModelRegistry

namespace Tensor

variable {α σ : Type} {leading index : List Nat} {width next : Nat} {element : Nat → Nat → α}

/-! ## Rows -/

/-- A row of a tensor, as a tensor without leading dimensions. -/
theorem row_ofRows (hindex : Inside leading index) :
    (ofRows leading width element).row index =
      ofRows [] width fun _ => element (place leading index) := by
  have hstop : place leading index * width + width ≤ sizeOf leading * width :=
    block_le (place_lt hindex) width
  have hwidth : (leading ++ [width]).getLastD 0 = width := by simp
  have hleading : (leading ++ [width]).dropLast = leading := List.dropLast_concat
  have hone : sizeOf [] * width = width := Nat.one_mul width
  simp only [row, shape_ofRows, hwidth, hleading]
  rw [ofRows, ofRows, Tensor.mk.injEq, hone]
  refine ⟨rfl, Array.ext ?_ fun j _ hj => ?_⟩
  · rw [Array.size_extract, Array.size_map, Array.size_range, Array.size_map, Array.size_range,
      Nat.min_eq_left hstop, Nat.add_sub_cancel_left]
  · have hj : j < width := by simpa using hj
    simp [block_div _ hj]

/-! ## Steps -/

/-- What a step makes of a row depends on the elements of that row only. -/
theorem stepElement_congr (E : Elements α σ) {s : Step} (h : stepWidth? width s = some next)
    {row other : Nat → α} (hrow : ∀ j < width, row j = other j) {j : Nat} (hj : j < next) :
    stepElement E width row s j = stepElement E width other s j := by
  cases s with
  | identity =>
      obtain rfl := Option.some.inj h
      exact hrow j hj
  | narrow start length =>
      rw [stepWidth?, Option.ite_none_right_eq_some] at h
      obtain ⟨hrange, hnext⟩ := h
      obtain rfl := Option.some.inj hnext
      exact hrow (start.toNat + j) (by omega)
  | chunkMean chunks =>
      rw [stepWidth?, Option.ite_none_right_eq_some] at h
      obtain ⟨⟨-, hdivides⟩, hnext⟩ := h
      obtain rfl := Option.some.inj hnext
      have hchunk : ∀ c ∈ List.range chunks.toNat,
          row (c * (width / chunks.toNat) + j) = other (c * (width / chunks.toNat) + j) := by
        intro c hc
        exact hrow _ (Nat.lt_of_lt_of_le (lt_of_block (List.mem_range.mp hc) hj)
          (Nat.mul_div_le width chunks.toNat))
      rw [stepElement, stepElement, List.map_congr_left hchunk]
  | rmsNorm eps =>
      obtain rfl := Option.some.inj h
      have hsquares : ∀ k ∈ List.range width,
          E.single.mul (E.toSingle (row k)) (E.toSingle (row k)) =
            E.single.mul (E.toSingle (other k)) (E.toSingle (other k)) := by
        intro k hk
        rw [hrow k (List.mem_range.mp hk)]
      simp only [stepElement]
      rw [List.map_congr_left hsquares, hrow j hj]
  | scale factor =>
      obtain rfl := Option.some.inj h
      rw [stepElement, stepElement, hrow j hj]

/-- A step that the tensor allows puts the same function of rows in the place of each row. -/
theorem applyStep_ofRows (E : Elements α σ) {s : Step} (h : stepWidth? width s = some next) :
    applyStep E (ofRows leading width element) s =
      .ok (ofRows leading next fun i => stepElement E width (element i) s) := by
  have hwidth : (ofRows leading width element).width? = some width := List.getLast?_concat
  have hleading : (leading ++ [width]).dropLast = leading := List.dropLast_concat
  rw [applyStep, hwidth]
  simp only [h, shape_ofRows, hleading]
  refine congrArg Except.ok (ofRows_congr fun i hi j hj => ?_)
  exact stepElement_congr E h (fun k hk => getD_ofRows E.own.zero hi hk) hj

/-! ## Walks -/

/-- The steps of a walk put one function of rows in the place of each row, whatever the leading
dimensions, and so do the operations that the steps consist of. -/
theorem exists_act_of_walkSteps (E : Elements α σ) {position : Nat} {l last : Layout}
    {steps : List Step} (hl : 0 < l.width.toNat) (h : walkSteps position l steps = .ok last) :
    ∃ act : (Nat → α) → Nat → α, ∀ (leading : List Nat) (element : Nat → Nat → α),
      (ofRows leading l.width.toNat element).applySteps E steps =
        .ok (ofRows leading last.width.toNat fun i => act (element i)) ∧
      (ofRows leading l.width.toNat element).performSteps E steps =
        some (ofRows leading last.width.toNat fun i => act (element i)) := by
  induction steps generalizing position l with
  | nil =>
      obtain rfl := Except.ok.inj h
      exact ⟨id, fun _ _ => ⟨rfl, rfl⟩⟩
  | cons s rest ih =>
      obtain ⟨next, hs, hrest⟩ := exists_next_of_walkSteps h
      obtain ⟨hstep, hpos⟩ := Step.stepWidth?_of_advance hl hs
      obtain ⟨act, hact⟩ := ih hpos hrest
      refine ⟨fun row => act (stepElement E l.width.toNat row s), fun leading element => ?_⟩
      rw [applySteps, applyStep_ofRows E hstep, performSteps, performStep_ofRows E hstep]
      exact hact leading _

end Tensor

/-! ## Adapters -/

namespace Adapter

open Tensor

variable {α σ : Type}

/-- A valid walk puts one function of rows in the place of each row of a tensor. -/
theorem exists_act (E : Elements α σ) {a : Adapter} {layout : Layout}
    (h : a.produced = .ok layout) :
    ∃ act : (Nat → α) → Nat → α, ∀ (leading : List Nat) (element : Nat → Nat → α),
      a.apply E (ofRows leading a.nativeWidth.toNat element) =
        .ok (ofRows leading layout.width.toNat fun i => act (element i)) ∧
      (ofRows leading a.nativeWidth.toNat element).performSteps E a.steps =
        some (ofRows leading layout.width.toNat fun i => act (element i)) := by
  obtain ⟨hpos, hwalk⟩ := walkSteps_of_produced h
  obtain ⟨act, hact⟩ := exists_act_of_walkSteps E hpos hwalk
  refine ⟨act, fun leading element => ⟨?_, (hact leading element).2⟩⟩
  have hwidth : (ofRows leading a.nativeWidth.toNat element).width? = some a.nativeWidth.toNat :=
    List.getLast?_concat
  rw [apply, h, hwidth]
  simp only [ne_eq, not_true_eq_false, if_false]
  exact (hact leading element).1

theorem apply_row (E : Elements α σ) {a : Adapter} {layout : Layout}
    (h : a.produced = .ok layout) {t : Tensor α} {leading : List Nat}
    (hshape : t.shape = leading ++ [a.nativeWidth.toNat]) (hfilled : t.IsFilled) :
    ∃ out, a.apply E t = .ok out ∧ t.performSteps E a.steps = some out ∧
      out.shape = leading ++ [layout.width.toNat] ∧ out.IsFilled ∧
      ∀ index, Inside leading index → a.apply E (t.row index) = .ok (out.row index) := by
  obtain ⟨act, hact⟩ := exists_act E h
  have hrows := eq_ofRows E.own.zero hshape hfilled
  generalize t.element E.own.zero a.nativeWidth.toNat = element at hrows
  subst hrows
  obtain ⟨happly, hperform⟩ := hact leading element
  refine ⟨_, happly, hperform, rfl, isFilled_ofRows _ _ _, fun index hindex => ?_⟩
  rw [row_ofRows hindex, row_ofRows hindex]
  exact (hact [] _).1

/-- **An adapter acts row by row.** Where its walk comes to a layout, it takes every tensor of its
native width to what the operations of its steps make of the whole tensor. The rows of the result
are what it makes of the rows alone, so a row of the result is the same for all tensors in which
the row at that index is. -/
theorem acts_row_by_row (E : Elements α σ) {a : Adapter} {layout : Layout}
    (h : a.produced = .ok layout) {t : Tensor α} {leading : List Nat}
    (hshape : t.shape = leading ++ [a.nativeWidth.toNat]) (hfilled : t.IsFilled) :
    ∃ out, a.apply E t = .ok out ∧ t.performSteps E a.steps = some out ∧
      out.shape = leading ++ [layout.width.toNat] ∧ out.IsFilled ∧
      (∀ index, Inside leading index → a.apply E (t.row index) = .ok (out.row index)) ∧
      ∀ other : Tensor α, other.shape = t.shape → other.IsFilled →
        ∃ otherOut, a.apply E other = .ok otherOut ∧
          ∀ index, Inside leading index → other.row index = t.row index →
            otherOut.row index = out.row index := by
  obtain ⟨out, hout, hperform, houtShape, houtFilled, hrows⟩ := apply_row E h hshape hfilled
  refine ⟨out, hout, hperform, houtShape, houtFilled, hrows, ?_⟩
  intro other hotherShape hotherFilled
  obtain ⟨otherOut, hotherOut, -, -, -, hotherRows⟩ :=
    apply_row E h (hotherShape.trans hshape) hotherFilled
  refine ⟨otherOut, hotherOut, fun index hindex hsame => ?_⟩
  have hrow := hotherRows index hindex
  rw [hsame, hrows index hindex] at hrow
  exact (Except.ok.inj hrow).symm

theorem three_layers_act_on_a_row :
    ∃ out, threeLayers.apply .doublePrecision ⟨[2, 5, 24], Array.replicate 240 0⟩ = .ok out ∧
      out.shape = [2, 5, 4] ∧
      threeLayers.apply .doublePrecision ⟨[24], Array.replicate 24 0⟩ = .ok (out.row [1, 3]) := by
  have hproduced : threeLayers.produced = .ok ⟨4, .none⟩ := rfl
  have hshape : [2, 5, 24] = [2, 5] ++ [threeLayers.nativeWidth.toNat] := rfl
  have hfilled : (⟨[2, 5, 24], Array.replicate 240 0⟩ : Tensor Float).IsFilled := by
    rw [Tensor.IsFilled, Array.size_replicate]
    rfl
  have hinside : Inside [2, 5] [1, 3] := .cons (by decide) (.cons (by decide) .nil)
  have hrow : row (⟨[2, 5, 24], Array.replicate 240 0⟩ : Tensor Float) [1, 3] =
      ⟨[24], Array.replicate 24 0⟩ := by
    simp [row, place, Tensor.sizeOf]
  obtain ⟨out, hout, -, houtShape, -, hrows, -⟩ :=
    acts_row_by_row .doublePrecision hproduced hshape hfilled
  exact ⟨out, hout, houtShape, hrow ▸ hrows [1, 3] hinside⟩

end Adapter

end ModelRegistry
