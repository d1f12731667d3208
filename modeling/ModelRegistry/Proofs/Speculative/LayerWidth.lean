import ModelRegistry.Proofs.Speculative.Narrow

/-!
# ModelRegistry.Proofs.Speculative.LayerWidth

The layer width of an adapter and the walk of its steps. `Adapter.layerWidth` divides the
native width by the leading chunk counts without asking whether they divide it; the walk
divides too, and checks. The two stop at different places: the fold before the first step
that is neither an identity nor a chunk mean, the walk at the end of the list.

What ties them together is the product of the width and of the chunks made so far. A step
that is no narrowing keeps it, and a narrowing inside the row does not raise it
(`mul_chunkCount_of_stepWidth?`, `mul_chunkCount_le_of_stepWidth?`); an induction over the
steps carries both to whole walks. The leading steps hold no narrowing, so the width to
which they lead divides the native one, and it is the layer width because the fold and the
walk take the same steps up to there (`foldChunks_of_walkSteps`). The rest of the walk
starts from that width.
-/

namespace ModelRegistry

/-! ## Chunks -/

namespace Step

/-- The step is one at which the fold to a layer width goes on: an identity or a chunk mean. -/
def folds : Step → Bool
  | .identity | .chunkMean _ => true
  | _ => false

/-- The step keeps a range of the features. -/
def Narrows : Step → Prop
  | .narrow _ _ => True
  | _ => False

/-- The number of chunks that the step makes of a row. -/
def chunkCount : Step → Nat
  | .chunkMean chunks => chunks.toNat
  | _ => 1

theorem not_narrows_of_folds {s : Step} (h : s.folds) : ¬s.Narrows := by
  cases s with
  | narrow => contradiction
  | _ => exact id

end Step

/-- The product of the chunk counts of the chunk means among the steps. -/
def chunkProduct : List Step → Nat
  | [] => 1
  | .chunkMean chunks :: rest => chunks.toNat * chunkProduct rest
  | _ :: rest => chunkProduct rest

theorem chunkProduct_cons (s : Step) (rest : List Step) :
    chunkProduct (s :: rest) = chunkProduct rest * s.chunkCount := by
  cases s with
  | chunkMean => exact Nat.mul_comm _ _
  | _ => exact (Nat.mul_one _).symm

theorem chunkProduct_pos {steps : List Step}
    (hsteps : ∀ chunks, .chunkMean chunks ∈ steps → chunks ≠ 0) : 0 < chunkProduct steps := by
  induction steps with
  | nil => exact Nat.one_pos
  | cons s rest ih =>
      have hrest := ih fun chunks hmem => hsteps chunks (List.mem_cons_of_mem s hmem)
      cases s with
      | chunkMean chunks =>
          have hne : chunks ≠ 0 := hsteps chunks List.mem_cons_self
          exact Nat.mul_pos (toNat_pos_of_ne_zero hne) hrest
      | _ => exact hrest

theorem chunkProduct_eq_one {steps : List Step} (hsteps : ∀ chunks, .chunkMean chunks ∉ steps) :
    chunkProduct steps = 1 := by
  induction steps with
  | nil => rfl
  | cons s rest ih =>
      have hrest := ih fun chunks hmem => hsteps chunks (List.mem_cons_of_mem s hmem)
      cases s with
      | chunkMean chunks => exact absurd List.mem_cons_self (hsteps chunks)
      | _ => exact hrest

/-! ## Widths of tensors -/

namespace Tensor

/-- A step other than a narrowing cuts the row into chunks of the next width, without a
remainder. -/
theorem mul_chunkCount_of_stepWidth? {s : Step} {width next : Nat} (hs : ¬s.Narrows)
    (h : stepWidth? width s = some next) : next * s.chunkCount = width := by
  cases s with
  | narrow => exact absurd trivial hs
  | chunkMean chunks =>
      rw [stepWidth?] at h
      split at h
      · next hguard =>
        obtain rfl := Option.some.inj h
        exact Nat.div_mul_cancel (Nat.dvd_of_mod_eq_zero hguard.2)
      · contradiction
  | _ =>
      obtain rfl := Option.some.inj h
      exact Nat.mul_one _

theorem mul_chunkCount_le_of_stepWidth? {s : Step} {width next : Nat}
    (h : stepWidth? width s = some next) : next * s.chunkCount ≤ width := by
  cases s with
  | narrow start length =>
      rw [stepWidth?] at h
      split at h
      · next hfits =>
        obtain rfl := Option.some.inj h
        calc
          length.toNat * 1 = length.toNat := Nat.mul_one _
          _ ≤ start.toNat + length.toNat := Nat.le_add_left _ _
          _ ≤ width := hfits
      · contradiction
  | _ => exact Nat.le_of_eq (mul_chunkCount_of_stepWidth? id h)

end Tensor

/-! ## The walk -/

/-- Without narrowings a walk loses nothing: the last width times the chunks that were made is the
first width. -/
theorem mul_chunkProduct_of_walkSteps {index : Nat} {l last : Layout} {steps : List Step}
    (hsteps : ∀ s ∈ steps, ¬s.Narrows) (hl : 0 < l.width.toNat)
    (h : walkSteps index l steps = .ok last) :
    last.width.toNat * chunkProduct steps = l.width.toNat := by
  induction steps generalizing index l with
  | nil =>
      obtain rfl := Except.ok.inj h
      exact Nat.mul_one _
  | cons s rest ih =>
      rw [List.forall_mem_cons] at hsteps
      obtain ⟨next, hs, hrest⟩ := exists_next_of_walkSteps h
      obtain ⟨hwidth, hpos⟩ := Step.stepWidth?_of_advance hl hs
      calc
        last.width.toNat * chunkProduct (s :: rest)
            = last.width.toNat * chunkProduct rest * s.chunkCount := by
              rw [chunkProduct_cons, Nat.mul_assoc]
        _ = next.width.toNat * s.chunkCount := by rw [ih hsteps.2 hpos hrest]
        _ = l.width.toNat := Tensor.mul_chunkCount_of_stepWidth? hsteps.1 hwidth

theorem mul_chunkProduct_le_of_walkSteps {index : Nat} {l last : Layout} {steps : List Step}
    (hl : 0 < l.width.toNat) (h : walkSteps index l steps = .ok last) :
    last.width.toNat * chunkProduct steps ≤ l.width.toNat := by
  induction steps generalizing index l with
  | nil =>
      obtain rfl := Except.ok.inj h
      exact Nat.le_of_eq (Nat.mul_one _)
  | cons s rest ih =>
      obtain ⟨next, hs, hrest⟩ := exists_next_of_walkSteps h
      obtain ⟨hwidth, hpos⟩ := Step.stepWidth?_of_advance hl hs
      calc
        last.width.toNat * chunkProduct (s :: rest)
            = last.width.toNat * chunkProduct rest * s.chunkCount := by
              rw [chunkProduct_cons, Nat.mul_assoc]
        _ ≤ next.width.toNat * s.chunkCount := Nat.mul_le_mul_right _ (ih hpos hrest)
        _ ≤ l.width.toNat := Tensor.mul_chunkCount_le_of_stepWidth? hwidth

/-! ## The fold -/

namespace Adapter

/-- The leading steps of the adapter: the longest part in front that consists of identities and
chunk means. -/
def leadingSteps (a : Adapter) : List Step := a.steps.takeWhile Step.folds

/-- The steps after the leading ones. -/
def laterSteps (a : Adapter) : List Step := a.steps.dropWhile Step.folds

theorem leadingSteps_append_laterSteps (a : Adapter) : a.leadingSteps ++ a.laterSteps = a.steps :=
  List.takeWhile_append_dropWhile

theorem folds_of_mem_leadingSteps {a : Adapter} {s : Step} (hs : s ∈ a.leadingSteps) : s.folds :=
  List.all_eq_true.mp List.all_takeWhile s hs

theorem mem_steps_of_mem_laterSteps {a : Adapter} {s : Step} (hs : s ∈ a.laterSteps) :
    s ∈ a.steps := by
  rw [← a.leadingSteps_append_laterSteps]
  exact List.mem_append_right _ hs

/-- The fold does not look at the steps after the leading ones. -/
theorem foldChunks_takeWhile (width : UInt64) (steps : List Step) :
    foldChunks width (steps.takeWhile Step.folds) = foldChunks width steps := by
  induction steps generalizing width with
  | nil => rfl
  | cons s rest ih =>
      cases s with
      | identity => exact ih width
      | chunkMean chunks =>
          have htake : (Step.chunkMean chunks :: rest).takeWhile Step.folds =
              .chunkMean chunks :: rest.takeWhile Step.folds := rfl
          rw [htake, foldChunks, foldChunks, ih]
      | _ => rfl

/-- A folded step that the walk takes leads the fold to the width of the next layout. -/
theorem foldChunks_cons_of_advance {s : Step} {l next : Layout} (hs : s.folds)
    (h : s.advance l = .ok next) (rest : List Step) :
    foldChunks l.width (s :: rest) = foldChunks next.width rest := by
  cases s with
  | identity =>
      obtain rfl := Except.ok.inj h
      rfl
  | chunkMean chunks =>
      rw [Step.advance] at h
      split at h
      · contradiction
      · next hguard =>
        obtain rfl := Except.ok.inj h
        rw [foldChunks, if_neg fun hzero => hguard (.inl hzero)]
  | _ => contradiction

/-- The fold and the walk have the same width after steps that both take. -/
theorem foldChunks_of_walkSteps {index : Nat} {l reached : Layout} {steps : List Step}
    (hsteps : ∀ s ∈ steps, s.folds) (h : walkSteps index l steps = .ok reached) :
    foldChunks l.width steps = reached.width := by
  induction steps generalizing index l with
  | nil =>
      obtain rfl := Except.ok.inj h
      rfl
  | cons s rest ih =>
      rw [List.forall_mem_cons] at hsteps
      obtain ⟨next, hs, hrest⟩ := exists_next_of_walkSteps h
      rw [foldChunks_cons_of_advance hsteps.1 hs]
      exact ih hsteps.2 hrest

theorem layerWidth_eq (a : Adapter) : a.layerWidth = foldChunks a.nativeWidth a.leadingSteps :=
  (foldChunks_takeWhile _ _).symm

/-- A walk to the end is one over the leading steps, to the layer width, and one from there. -/
theorem exists_walks_of_produced {a : Adapter} {layout : Layout} (h : a.produced = .ok layout) :
    ∃ norm, walkSteps 0 a.native a.leadingSteps = .ok ⟨a.layerWidth, norm⟩ ∧
      walkSteps a.leadingSteps.length ⟨a.layerWidth, norm⟩ a.laterSteps = .ok layout := by
  obtain ⟨-, hwalk⟩ := walkSteps_of_produced h
  rw [← a.leadingSteps_append_laterSteps] at hwalk
  obtain ⟨reached, hleading, hlater⟩ := exists_reached hwalk
  have hwidth : a.layerWidth = reached.width := by
    rw [layerWidth_eq]
    exact foldChunks_of_walkSteps (fun s => folds_of_mem_leadingSteps) hleading
  rw [Nat.zero_add] at hlater
  rw [hwidth]
  exact ⟨reached.norm, hleading, hlater⟩

/-- Each leading chunk count divides the width to which the fold has come. -/
theorem dvd_foldChunks_of_produced {a : Adapter} {layout : Layout} (h : a.produced = .ok layout)
    {before after : List Step} {chunks : UInt64}
    (hsplit : a.leadingSteps = before ++ .chunkMean chunks :: after) :
    chunks.toNat ∣ (foldChunks a.nativeWidth before).toNat := by
  obtain ⟨hpos, -⟩ := walkSteps_of_produced h
  obtain ⟨norm, hwalk, -⟩ := exists_walks_of_produced h
  have hfolds : ∀ s ∈ before, s.folds := by
    intro s hs
    apply folds_of_mem_leadingSteps
    rw [hsplit]
    exact List.mem_append_left _ hs
  rw [hsplit] at hwalk
  obtain ⟨reached, hbefore, hafter⟩ := exists_reached hwalk
  obtain ⟨next, hnext, -⟩ := exists_next_of_walkSteps hafter
  have hreached : 0 < reached.width.toNat := width_pos_of_walkSteps hpos hbefore
  have hwidth := (Step.stepWidth?_of_advance hreached hnext).1
  have hmul : next.width.toNat * chunks.toNat = reached.width.toNat :=
    Tensor.mul_chunkCount_of_stepWidth? id hwidth
  have hfold : foldChunks a.nativeWidth before = reached.width :=
    foldChunks_of_walkSteps hfolds hbefore
  rw [hfold, ← hmul]
  exact Nat.dvd_mul_left _ _

theorem layerWidth_pos {a : Adapter} {layout : Layout} (h : a.produced = .ok layout) :
    0 < a.layerWidth.toNat := by
  obtain ⟨hnative, -⟩ := walkSteps_of_produced h
  obtain ⟨norm, hleading, -⟩ := exists_walks_of_produced h
  exact width_pos_of_walkSteps hnative hleading

theorem layerWidth_mul_chunkProduct {a : Adapter} {layout : Layout} (h : a.produced = .ok layout) :
    a.layerWidth.toNat * chunkProduct a.leadingSteps = a.nativeWidth.toNat := by
  obtain ⟨hnative, -⟩ := walkSteps_of_produced h
  obtain ⟨norm, hleading, -⟩ := exists_walks_of_produced h
  have hstraight : ∀ s ∈ a.leadingSteps, ¬s.Narrows := fun s hs =>
    Step.not_narrows_of_folds (folds_of_mem_leadingSteps hs)
  exact mul_chunkProduct_of_walkSteps hstraight hnative hleading

/-- The steps after the leading ones do not widen a layer. -/
theorem width_le_layerWidth {a : Adapter} {layout : Layout} (h : a.produced = .ok layout) :
    layout.width.toNat ≤ a.layerWidth.toNat := by
  obtain ⟨norm, -, hlater⟩ := exists_walks_of_produced h
  have hchunks : 0 < chunkProduct a.laterSteps := chunkProduct_pos fun chunks hmem =>
    chunks_ne_zero_of_produced h (mem_steps_of_mem_laterSteps hmem)
  calc
    layout.width.toNat ≤ layout.width.toNat * chunkProduct a.laterSteps :=
      Nat.le_mul_of_pos_right _ hchunks
    _ ≤ a.layerWidth.toNat := mul_chunkProduct_le_of_walkSteps (layerWidth_pos h) hlater

theorem width_eq_layerWidth {a : Adapter} {layout : Layout} (h : a.produced = .ok layout)
    (hnarrow : ∀ start length, .narrow start length ∉ a.laterSteps)
    (hchunk : ∀ chunks, .chunkMean chunks ∉ a.laterSteps) : layout.width = a.layerWidth := by
  obtain ⟨norm, -, hlater⟩ := exists_walks_of_produced h
  have hstraight : ∀ s ∈ a.laterSteps, ¬s.Narrows := by
    intro s hs
    cases s with
    | narrow start length => exact absurd hs (hnarrow start length)
    | _ => exact id
  have hmul := mul_chunkProduct_of_walkSteps hstraight (layerWidth_pos h) hlater
  rw [chunkProduct_eq_one hchunk, Nat.mul_one] at hmul
  exact UInt64.toNat_inj.mp hmul

/-- **Leading chunk means are folded exactly**: where the walk of an adapter comes to its end, the
layer width times the chunk counts of the leading chunk means is the native width, and no division
on the way to it leaves a remainder. The layer width is positive, and the walk has it after the
leading steps. From there on the walk gets no wider, and stays as wide if no narrowing or chunk
mean is left. -/
theorem leading_chunks_fold_exactly {a : Adapter} {layout : Layout}
    (h : a.produced = .ok layout) :
    a.layerWidth.toNat * chunkProduct a.leadingSteps = a.nativeWidth.toNat ∧
      (∀ before chunks after, a.leadingSteps = before ++ .chunkMean chunks :: after →
        chunks.toNat ∣ (foldChunks a.nativeWidth before).toNat) ∧
      1 ≤ a.layerWidth.toNat ∧
      (∃ norm, walkSteps 0 a.native a.leadingSteps = .ok ⟨a.layerWidth, norm⟩) ∧
      layout.width.toNat ≤ a.layerWidth.toNat ∧
      ((∀ start length, .narrow start length ∉ a.laterSteps) →
        (∀ chunks, .chunkMean chunks ∉ a.laterSteps) → layout.width = a.layerWidth) := by
  refine ⟨layerWidth_mul_chunkProduct h, ?_, layerWidth_pos h, ?_, width_le_layerWidth h, ?_⟩
  · intro before chunks after hsplit
    exact dvd_foldChunks_of_produced h hsplit
  · obtain ⟨norm, hleading, -⟩ := exists_walks_of_produced h
    exact ⟨norm, hleading⟩
  · intro hnarrow hchunk
    exact width_eq_layerWidth h hnarrow hchunk

/-- Folds six concatenated layers of eight features in two steps, keeps four of the features and
averages those in pairs. -/
def sixLayers : Adapter :=
  ⟨48, .none, [.chunkMean 2, .identity, .chunkMean 3, .narrow 2 4, .chunkMean 2], ⟨2, .none⟩⟩

/-- Folds the six layers and doubles the features. -/
def sixLayersDoubled : Adapter :=
  ⟨48, .none, [.chunkMean 2, .identity, .chunkMean 3, .scale ⟨0x4000000000000000⟩], ⟨8, .none⟩⟩

theorem six_layers_fold :
    sixLayers.produced = .ok ⟨2, .none⟩ ∧ sixLayers.layerWidth.toNat * 6 = 48 ∧
      3 ∣ (foldChunks 48 [.chunkMean 2, .identity]).toNat ∧ 2 ≤ sixLayers.layerWidth.toNat ∧
      sixLayersDoubled.produced = .ok ⟨8, .none⟩ ∧ 8 = sixLayersDoubled.layerWidth := by
  have hproduced : sixLayers.produced = .ok ⟨2, .none⟩ := rfl
  have hdoubled : sixLayersDoubled.produced = .ok ⟨8, .none⟩ := rfl
  have hlater : sixLayersDoubled.laterSteps = [.scale ⟨0x4000000000000000⟩] := rfl
  obtain ⟨hproduct, hexact, -, -, hle, -⟩ := leading_chunks_fold_exactly hproduced
  obtain ⟨-, -, -, -, -, heq⟩ := leading_chunks_fold_exactly hdoubled
  refine ⟨hproduced, hproduct, ?_, hle, hdoubled, ?_⟩
  · exact hexact [.chunkMean 2, .identity] 3 [] rfl
  · apply heq
    · simp [hlater]
    · simp [hlater]

end Adapter

end ModelRegistry
