import Mathlib.Data.List.Forall2
import ModelRegistry.Proofs.Speculative.Layout
import ModelRegistry.Speculative.Operations

/-!
# ModelRegistry.Proofs.Speculative.Operations

The operations on whole tensors, on tensors that are given by their rows. An index
is one of the leading dimensions followed by one along the row; `place_append` and
`indexAt_append` split its place in row-major order into the number of the row and
the position in it. From them each operation gets an equation about `ofRows`, and a
step that the tensor allows turns out to be what `applyStep` makes of each row
(`performStep_ofRows`).
-/

namespace ModelRegistry

namespace Tensor

variable {α β σ : Type} {leading tail shape index : List Nat} {width n : Nat}

/-! ## Blocks -/

/-- Of some blocks of `width` places each, every one ends by the end of the last. -/
theorem block_le {i count : Nat} (hi : i < count) (width : Nat) :
    i * width + width ≤ count * width := by
  rw [← Nat.succ_mul]
  exact Nat.mul_le_mul_right width hi

theorem lt_of_block {i j count : Nat} (hi : i < count) (hj : j < width) :
    i * width + j < count * width :=
  Nat.lt_of_lt_of_le (Nat.add_lt_add_left hj _) (block_le hi width)

/-- A place lies in one of the blocks, at a position in it. -/
theorem block_lt {count : Nat} (h : n < count * width) : n / width < count ∧ n % width < width :=
  ⟨Nat.div_lt_of_lt_mul (Nat.mul_comm width count ▸ h), Nat.mod_lt n (Nat.pos_of_lt_mul_left h)⟩

/-- A place tells its block. -/
theorem block_div {j : Nat} (i : Nat) (hj : j < width) : (i * width + j) / width = i := by
  rw [Nat.mul_comm, Nat.mul_add_div (Nat.zero_lt_of_lt hj), Nat.div_eq_of_lt hj, Nat.add_zero]

/-- A place tells the position in its block. -/
theorem block_mod {j : Nat} (i : Nat) (hj : j < width) : (i * width + j) % width = j := by
  rw [Nat.mul_comm, Nat.mul_add_mod, Nat.mod_eq_of_lt hj]

/-! ## Indices -/

/-- The index has a position inside each dimension of the shape. -/
def Inside (shape index : List Nat) : Prop := List.Forall₂ (· < ·) index shape

theorem Inside.length_eq (h : Inside shape index) : index.length = shape.length :=
  List.Forall₂.length_eq h

theorem place_append (h : index.length = leading.length) (rest : List Nat) :
    place (leading ++ tail) (index ++ rest) =
      place leading index * sizeOf tail + place tail rest := by
  induction leading generalizing index with
  | nil =>
      obtain rfl := List.eq_nil_of_length_eq_zero h
      simp [place]
  | cons size leading ih =>
      cases index with
      | nil => simp at h
      | cons i index =>
          rw [List.cons_append, List.cons_append, place, place, sizeOf_append_list,
            ih (Nat.succ.inj h), Nat.add_mul, Nat.mul_assoc, Nat.add_assoc]

theorem indexAt_append (h : n < sizeOf (leading ++ tail)) :
    indexAt (leading ++ tail) n =
      indexAt leading (n / sizeOf tail) ++ indexAt tail (n % sizeOf tail) := by
  induction leading generalizing n with
  | nil =>
      rw [List.nil_append] at h
      rw [indexAt, List.nil_append, List.nil_append, Nat.mod_eq_of_lt h]
  | cons size leading ih =>
      rw [List.cons_append, sizeOf_cons] at h
      obtain ⟨-, hposition⟩ := block_lt h
      rw [List.cons_append, indexAt, indexAt, ih hposition, List.cons_append,
        sizeOf_append_list]
      rw [Nat.mod_mul_left_div_self, Nat.mod_mul_left_mod, Nat.div_div_eq_div_mul,
        Nat.mul_comm (sizeOf tail)]

theorem inside_indexAt (h : n < sizeOf shape) : Inside shape (indexAt shape n) := by
  induction shape generalizing n with
  | nil => exact .nil
  | cons size shape ih =>
      rw [sizeOf_cons] at h
      obtain ⟨hblock, hposition⟩ := block_lt h
      exact .cons hblock (ih hposition)

theorem place_indexAt (h : n < sizeOf shape) : place shape (indexAt shape n) = n := by
  induction shape generalizing n with
  | nil =>
      obtain rfl : n = 0 := Nat.lt_one_iff.mp h
      rfl
  | cons size shape ih =>
      rw [sizeOf_cons] at h
      obtain ⟨-, hposition⟩ := block_lt h
      rw [indexAt, place, ih hposition, Nat.div_add_mod']

theorem place_lt (h : Inside shape index) : place shape index < sizeOf shape := by
  induction h with
  | nil => exact Nat.one_pos
  | cons hi _ ih => exact lt_of_block hi ih

/-! ## Tensors given by their rows -/

variable {element other : Nat → Nat → α}

theorem shape_ofRows : (ofRows leading width element).shape = leading ++ [width] := rfl

theorem ofRows_congr (h : ∀ i < sizeOf leading, ∀ j < width, element i j = other i j) :
    ofRows leading width element = ofRows leading width other := by
  rw [ofRows, ofRows, Tensor.mk.injEq]
  refine ⟨rfl, Array.map_congr_left fun n hn => ?_⟩
  obtain ⟨hi, hj⟩ := block_lt (Array.mem_range.mp hn)
  exact h _ hi _ hj

/-- A tensor with as many elements as its shape says is given by its rows. -/
theorem eq_ofRows (zero : α) {t : Tensor α} (hshape : t.shape = leading ++ [width])
    (hfilled : t.IsFilled) : t = ofRows leading width (t.element zero width) := by
  have hsize : t.data.size = sizeOf leading * width := by
    rw [hfilled, hshape, sizeOf_append]
  obtain ⟨shape, data⟩ := t
  obtain rfl : shape = leading ++ [width] := hshape
  rw [ofRows, Tensor.mk.injEq]
  refine ⟨rfl, Array.ext (by simpa using hsize) fun n hn _ => ?_⟩
  simp only [Array.getElem_map, Array.getElem_range, Tensor.element, Nat.div_add_mod',
    Array.getD_eq_getD_getElem?, Array.getElem?_eq_getElem hn, Option.getD_some]

/-- An operation that gives its elements by index gives them by row. -/
theorem ofIndex_eq_ofRows {f : List Nat → α}
    (h : ∀ i < sizeOf leading, ∀ j < width, f (indexAt leading i ++ [j]) = element i j) :
    ofIndex (leading ++ [width]) f = ofRows leading width element := by
  rw [ofIndex, ofRows, Tensor.mk.injEq, sizeOf_append]
  refine ⟨rfl, Array.map_congr_left fun n hn => ?_⟩
  have hn := Array.mem_range.mp hn
  obtain ⟨hi, hj⟩ := block_lt hn
  rw [← h _ hi _ hj, indexAt_append (by rwa [sizeOf_append])]
  simp [indexAt, sizeOf]

theorem map_ofRows (f : α → β) :
    (ofRows leading width element).map f = ofRows leading width fun i j => f (element i j) := by
  rw [map, ofRows, ofRows, Array.map_map]
  rfl

theorem getD_ofRows (zero : α) {i j : Nat} (hi : i < sizeOf leading) (hj : j < width) :
    (ofRows leading width element).data.getD (i * width + j) zero = element i j := by
  have hn : i * width + j < sizeOf leading * width := lt_of_block hi hj
  simp [ofRows, Array.getD_eq_getD_getElem?, hn, block_div i hj, block_mod i hj]

theorem get_ofRows (zero : α) (hindex : Inside leading index) {j : Nat} (hj : j < width) :
    (ofRows leading width element).get zero (index ++ [j]) = element (place leading index) j := by
  have hplace : place (leading ++ [width]) (index ++ [j]) = place leading index * width + j := by
    rw [place_append hindex.length_eq]
    simp [place, sizeOf]
  rw [get, shape_ofRows, hplace, getD_ofRows zero (place_lt hindex) hj]

/-! ## Operations by row -/

/-- Along the last dimension, an index is changed in its last position. -/
theorem set_last (h : index.length = leading.length) (j k : Nat) :
    (index ++ [j]).set leading.length k = index ++ [k] := by
  rw [← h]
  simp

theorem narrow?_ofRows (zero : α) {start length : Nat} (h : start + length ≤ width) :
    (ofRows leading width element).narrow? zero leading.length start length =
      some (ofRows leading length fun i j => element i (start + j)) := by
  have hsize : (leading ++ [width]).getD leading.length 0 = width := by simp
  rw [narrow?, shape_ofRows, hsize, if_pos h, set_last rfl]
  refine congrArg some (ofIndex_eq_ofRows fun i hi j hj => ?_)
  have hin : Inside leading (indexAt leading i) := inside_indexAt hi
  have hlast : (indexAt leading i ++ [j]).getD leading.length 0 = j := by
    simp [← hin.length_eq]
  rw [hlast, set_last hin.length_eq, get_ofRows zero hin (by omega), place_indexAt hi]

theorem meanKeep_ofRows (A : Arithmetic α) :
    (ofRows leading width element).meanKeep A leading.length =
      ofRows leading 1 fun i _ =>
        A.meanOfSum (A.sum ((List.range width).map fun k => element i k)) width := by
  have hsize : (leading ++ [width]).getD leading.length 0 = width := by simp
  rw [meanKeep, shape_ofRows, hsize, set_last rfl]
  refine ofIndex_eq_ofRows fun i hi j _ => ?_
  have hin : Inside leading (indexAt leading i) := inside_indexAt hi
  have helements : ∀ k ∈ List.range width, (ofRows leading width element).get A.zero
      ((indexAt leading i ++ [j]).set leading.length k) = element i k := by
    intro k hk
    rw [set_last hin.length_eq, get_ofRows A.zero hin (List.mem_range.mp hk), place_indexAt hi]
  rw [List.map_congr_left helements]

/-- Inside a shape, only the first position fits into a dimension of size 1. -/
theorem stretch_eq_self (h : Inside leading index) :
    List.zipWith (fun size i => if size = 1 then 0 else i) leading index = index := by
  induction h with
  | nil => rfl
  | @cons i size index leading hi _ ih =>
      rw [List.zipWith_cons_cons, ih]
      split
      · next hone =>
          obtain rfl : i = 0 := by omega
          rfl
      · rfl

theorem combine_ofRows (zero : α) (f : α → α → α) (stretched : Nat → Nat → α) :
    (ofRows leading width element).combine zero f (ofRows leading 1 stretched) =
      ofRows leading width fun i j => f (element i j) (stretched i 0) := by
  rw [combine, shape_ofRows, shape_ofRows]
  refine ofIndex_eq_ofRows fun i hi j hj => ?_
  have hin : Inside leading (indexAt leading i) := inside_indexAt hi
  rw [List.zipWith_append hin.length_eq.symm, stretch_eq_self hin, get_ofRows zero hin hj]
  have hfirst : List.zipWith (fun size i => if size = 1 then 0 else i) [1] [j] = [0] := rfl
  rw [hfirst, get_ofRows zero hin Nat.one_pos, place_indexAt hi]

/-- The element of a chunk, where chunks have a dimension of their own. -/
theorem get_chunk (zero : α) {chunks size c j : Nat} (h : chunks * size = width)
    (hindex : Inside leading index) (hc : c < chunks) (hj : j < size) :
    Tensor.get zero { ofRows leading width element with shape := leading ++ [chunks, size] }
      (index ++ [c, j]) = element (place leading index) (c * size + j) := by
  have hcolumn : c * size + j < width := h ▸ lt_of_block hc hj
  have hplace : place (leading ++ [chunks, size]) (index ++ [c, j]) =
      place leading index * width + (c * size + j) := by
    rw [place_append hindex.length_eq, ← h]
    simp [place, sizeOf]
  rw [get, hplace, getD_ofRows zero (place_lt hindex) hcolumn]

/-- The index of a place where a dimension before the last one has the size 1. -/
theorem indexAt_kept {size : Nat} (h : n < sizeOf leading * size) :
    indexAt (leading ++ [1, size]) n = indexAt leading (n / size) ++ [0, n % size] := by
  have htail : sizeOf [1, size] = size := by simp [sizeOf]
  rw [indexAt_append (by rwa [sizeOf_append_list, htail]), htail]
  simp [indexAt, sizeOf, Nat.mod_div_self]

/-- Chunks of a row as a dimension of their own, and the mean over it. -/
theorem mean_reshape?_ofRows (A : Arithmetic α) {chunks size : Nat} (h : chunks * size = width) :
    ((ofRows leading width element).reshape? (leading ++ [chunks, size])).map
        (·.mean A leading.length) =
      some (ofRows leading size fun i j => A.meanOfSum
        (A.sum ((List.range chunks).map fun c => element i (c * size + j))) chunks) := by
  have hsizes : sizeOf (leading ++ [chunks, size]) = sizeOf (leading ++ [width]) := by
    rw [sizeOf_append_list, sizeOf_append, ← h]
    simp [sizeOf]
  have haxis : (leading ++ [chunks, size]).getD leading.length 0 = chunks := by simp
  have hkept : (leading ++ [chunks, size]).set leading.length 1 = leading ++ [1, size] := by simp
  have hdropped : (leading ++ [chunks, size]).eraseIdx leading.length = leading ++ [size] := by
    simp [List.eraseIdx_append_of_length_le]
  rw [reshape?, shape_ofRows, if_pos hsizes, Option.map_some, Option.some.injEq, mean, meanKeep,
    haxis, hkept, hdropped, ofRows, Tensor.mk.injEq, ofIndex, sizeOf_append_list]
  have htail : sizeOf [1, size] = size := by simp [sizeOf]
  rw [htail]
  refine ⟨rfl, Array.map_congr_left fun n hn => ?_⟩
  have hn := Array.mem_range.mp hn
  obtain ⟨hi, hj⟩ := block_lt hn
  have hin : Inside leading (indexAt leading (n / size)) := inside_indexAt hi
  have helements : ∀ c ∈ List.range chunks,
      Tensor.get A.zero { ofRows leading width element with shape := leading ++ [chunks, size] }
        ((indexAt (leading ++ [1, size]) n).set leading.length c) =
      element (n / size) (c * size + n % size) := by
    intro c hc
    have hset : (indexAt leading (n / size) ++ [0, n % size]).set leading.length c =
        indexAt leading (n / size) ++ [c, n % size] := by
      simp [← hin.length_eq]
    rw [indexAt_kept hn, hset, get_chunk A.zero h hin (List.mem_range.mp hc) hj, place_indexAt hi]
  exact congrArg (fun xs => A.meanOfSum (A.sum xs) chunks) (List.map_congr_left helements)

/-! ## Steps -/

theorem normalize_ofRows (E : Elements α σ) (eps : Number.Binary64) :
    (ofRows leading width element).normalize E eps =
      ofRows leading width fun i => stepElement E width (element i) (.rmsNorm eps) := by
  have haxis : (leading ++ [width]).length - 1 = leading.length := by simp
  simp only [normalize, map_ofRows, shape_ofRows, haxis, meanKeep_ofRows, combine_ofRows]
  rfl

/-- A step that the tensor allows makes of each row what `applyStep` says. -/
theorem performStep_ofRows (E : Elements α σ) {s : Step} {next : Nat}
    (h : stepWidth? width s = some next) :
    (ofRows leading width element).performStep E s =
      some (ofRows leading next fun i => stepElement E width (element i) s) := by
  have haxis : (leading ++ [width]).length - 1 = leading.length := by simp
  cases s with
  | identity =>
      obtain rfl := Option.some.inj h
      rfl
  | narrow start length =>
      rw [stepWidth?, Option.ite_none_right_eq_some] at h
      obtain ⟨hrange, hnext⟩ := h
      obtain rfl := Option.some.inj hnext
      rw [performStep, shape_ofRows, haxis, narrow?_ofRows E.own.zero hrange]
      rfl
  | chunkMean chunks =>
      rw [stepWidth?, Option.ite_none_right_eq_some] at h
      obtain ⟨⟨-, hdivides⟩, hnext⟩ := h
      obtain rfl := Option.some.inj hnext
      have hleading : (leading ++ [width]).dropLast = leading := List.dropLast_concat
      have hwidth : (leading ++ [width]).getLastD 0 = width := by simp
      simp only [performStep, shape_ofRows, hleading, hwidth]
      exact mean_reshape?_ofRows E.own
        (Nat.mul_div_cancel' (Nat.dvd_of_mod_eq_zero hdivides))
  | rmsNorm eps =>
      obtain rfl := Option.some.inj h
      rw [performStep, normalize_ofRows]
  | scale factor =>
      obtain rfl := Option.some.inj h
      rw [performStep, map_ofRows]
      rfl

end Tensor

end ModelRegistry
