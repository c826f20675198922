import FormulaLab.Proofs.Dimension.Blocks
import FormulaLab.Proofs.Dimension.Linearity

/-! The structural properties that a mapping tells of itself. They are read off its two dimensions, and
they say whether it separates the vectors of its source and whether it reaches those of its target. -/

namespace FormulaLab

namespace Binary64

instance finite_float : Finite Float :=
  Finite.of_injective (fun x : Float => x.toBits.toBitVec.toFin) fun _ _ same =>
    eq_of_toNat_eq (congrArg Fin.val same)

instance nontrivial_float : Nontrivial Float := ⟨0, 1, by decide +kernel⟩

end Binary64

namespace Dimension

/-- Among finitely many values, there are too few vectors of a lower dimension to separate. -/
theorem le_of_injOn_finite {α : Type} [Finite α] [Nontrivial α] {source target : Nat}
    {f : List α → List α} (sized : ∀ v, v.length = source → (f v).length = target)
    (injective : Set.InjOn f {v | v.length = source}) : source ≤ target := by
  have := Fintype.ofFinite α
  let image (v : List.Vector α source) : List.Vector α target := ⟨f v.1, sized v.1 v.2⟩
  have separates : Function.Injective image := fun v w same =>
    Subtype.ext (injective v.2 w.2 (congrArg Subtype.val same))
  have count := Fintype.card_le_of_injective image separates
  rwa [card_vector, card_vector, Nat.pow_le_pow_iff_right Fintype.one_lt_card] at count

variable {α : Type} [Scalar α] {source target i j k : Nat} {vector : List α}

/-- The least index at which resampling finds the component `i` or a later one. -/
def firstIndex (source target i : Nat) : Nat := (i * target + source - 1) / source

theorem firstIndex_bounds (target : Nat) (inside : i < source) :
    i * target ≤ firstIndex source target i * source ∧
      firstIndex source target i * source < i * target + source := by
  have whole := Nat.div_add_mod (i * target + source - 1) source
  have small := Nat.mod_lt (i * target + source - 1) (Nat.zero_lt_of_lt inside)
  rw [← firstIndex, Nat.mul_comm source] at whole
  omega

/-- Upwards, resampling finds every component. -/
theorem index_firstIndex (fits : source ≤ target) (inside : i < source) :
    firstIndex source target i < target ∧ firstIndex source target i * source / target = i := by
  obtain ⟨lower, upper⟩ := firstIndex_bounds target inside
  have next := Nat.mul_le_mul_right target inside
  rw [Nat.succ_mul, Nat.mul_comm source] at next
  refine ⟨Nat.lt_of_mul_lt_mul_right (a := source) (by omega), ?_⟩
  exact Nat.div_eq_of_lt_le lower (by rw [Nat.succ_mul]; omega)

/-- Downwards, it finds none twice. -/
theorem firstIndex_index (fits : target ≤ source) (inside : j < target) :
    firstIndex source target (j * source / target) = j := by
  have whole := Nat.div_add_mod (j * source) target
  have small := Nat.mod_lt (j * source) (Nat.zero_lt_of_lt inside)
  rw [Nat.mul_comm target] at whole
  exact Nat.div_eq_of_lt_le (by omega) (by rw [Nat.succ_mul]; omega)

theorem index_lt (some : 0 < source) (inside : j < target) : j * source / target < source := by
  rw [Nat.div_lt_iff_lt_mul (Nat.zero_lt_of_lt inside), Nat.mul_comm source]
  exact Nat.mul_lt_mul_of_pos_right inside some

theorem resample_length (vector : List α) (target : Nat) :
    (resample vector target).length = target := by
  rw [resample]
  split <;> simp

theorem resample_getElem (inside : j < (resample vector target).length) :
    (resample vector target)[j] = vector.getD (j * vector.length / target) 0 := by
  by_cases empty : vector = []
  · simp only [resample, if_pos empty, List.getElem_replicate]
    rw [empty, List.getD_nil]
  · simp only [resample, if_neg empty, List.getElem_map, List.getElem_range]

theorem resample_injOn (fits : source ≤ target) :
    Set.InjOn (fun v : List α => resample v target) {v | v.length = source} := by
  intro v (sizeV : v.length = source) w (sizeW : w.length = source) same
  refine List.ext_getElem (sizeV.trans sizeW.symm) fun i inV inW => ?_
  -- Every component can be read off the image, at the first index that is made from it.
  obtain ⟨inside, found⟩ := index_firstIndex fits (sizeV ▸ inV)
  have equal := List.getElem_of_eq same (i := firstIndex source target i)
    (by rwa [resample_length])
  rwa [resample_getElem, resample_getElem, sizeV, sizeW, found, List.getD_eq_getElem _ _ inV,
    List.getD_eq_getElem _ _ inW] at equal

theorem resample_surjOn (fits : target ≤ source) :
    Set.SurjOn (fun v : List α => resample v target) {v | v.length = source}
      {w | w.length = target} := by
  intro w (size : w.length = target)
  let v := (List.range source).map fun i => w.getD (firstIndex source target i) 0
  have sizeV : v.length = source := by rw [List.length_map, List.length_range]
  refine ⟨v, sizeV, List.ext_getElem ((resample_length v target).trans size.symm) ?_⟩
  intro j inV inW
  have inside : j < target := size ▸ inW
  have within := index_lt (Nat.lt_of_lt_of_le (Nat.zero_lt_of_lt inside) fits) inside
  rw [resample_getElem, sizeV, List.getD_eq_getElem _ _ (sizeV.symm ▸ within), List.getElem_map,
    List.getElem_range, firstIndex_index fits inside, List.getD_eq_getElem _ _ inW]

theorem resample_self (vector : List α) : resample vector vector.length = vector := by
  refine List.ext_getElem (resample_length _ _) fun j inside within => ?_
  rw [resample_getElem, Nat.mul_div_cancel _ (Nat.zero_lt_of_lt within),
    List.getD_eq_getElem _ _ within]

theorem raise_length (fits : vector.length ≤ target) : (raise vector target).length = target := by
  rw [raise, List.length_append, List.length_map, List.length_range]
  omega

theorem raise_self (vector : List α) : raise vector vector.length = vector := by
  rw [raise, Nat.sub_self]
  exact List.append_nil vector

/-- The block in which a component stands. -/
def blockOf (source target i : Nat) : Nat := ((i + 1) * target - 1) / source

theorem blockOf_eq (some : 0 < target) (behind : k * source / target ≤ i)
    (before : i < (k + 1) * source / target) : blockOf source target i = k := by
  have lower : k * source < (i + 1) * target :=
    (Nat.div_lt_iff_lt_mul some).mp (Nat.lt_succ_of_le behind)
  have upper : (i + 1) * target ≤ (k + 1) * source := (Nat.le_div_iff_mul_le some).mp before
  exact Nat.div_eq_of_lt_le (by omega) (by omega)

/-- Where a block has its components from. -/
theorem ReadExactly.mem_block (exact : ReadExactly α vector.length target) (fits : target ≤ vector.length)
    (inside : k < target) {x : α} (member : x ∈ block vector target k) :
    ∃ i, ∃ within : i < vector.length, k * vector.length / target ≤ i ∧
      i < (k + 1) * vector.length / target ∧ x = vector[i] := by
  obtain ⟨i, before, rfl⟩ := List.mem_iff_getElem.mp member
  simp only [block, List.length_take, List.length_drop, exact k inside,
    exact.blockEnd_eq (Nat.zero_lt_of_lt inside) fits inside] at before
  refine ⟨k * vector.length / target + i, by omega, Nat.le_add_right _ i, by omega, ?_⟩
  simp only [block, List.getElem_take, List.getElem_drop, exact k inside]

/-- Without rounding, block means reach every vector: that of constant blocks has it for its means. -/
theorem blockMeans_surjOn (fits : target ≤ source) (counted : source ≤ maxCount) :
    Set.SurjOn (fun v : List ℝ => blockMeans v target) {v | v.length = source}
      {w | w.length = target} := by
  intro w (size : w.length = target)
  let v := (List.range source).map fun i => w.getD (blockOf source target i) 0
  have sizeV : v.length = source := by rw [List.length_map, List.length_range]
  have exact : ReadExactly ℝ v.length target := sizeV.symm ▸ readExactly_real target counted
  refine ⟨v, sizeV, List.ext_getElem ((blockMeans_length v target).trans size.symm) ?_⟩
  intro k inV inW
  have inside : k < target := size ▸ inW
  have some := Nat.zero_lt_of_lt inside
  have constant : ∀ x ∈ block v target k, x = w[k] := by
    intro x member
    obtain ⟨i, _, behind, before, rfl⟩ := exact.mem_block (sizeV.symm ▸ fits) inside member
    rw [sizeV] at behind before
    rw [List.getElem_map, List.getElem_range, blockOf_eq some behind before,
      List.getD_eq_getElem _ _ inW]
  have tiles := exact.tiles some (sizeV.symm ▸ fits)
  have length : ((block v target k).length : ℝ) ≠ 0 := by
    rw [tiles.block_length inside]
    exact Nat.cast_ne_zero.mpr (Nat.ne_of_gt (tiles.blockLength_pos inside))
  simp only [blockMeans, List.getElem_map, List.getElem_range]
  rw [Scalar.sum_real, List.sum_eq_card_nsmul _ _ constant, nsmul_eq_mul]
  exact mul_div_cancel_left₀ _ length

end Dimension

open Dimension

variable {α : Type} [Scalar α] {source target : Nat} {vector : List α}

namespace MappingFamily

variable {family : MappingFamily}

theorem kernel_length (family : MappingFamily) (target : Nat) (vector : List α) :
    (family.kernel target vector).length = target := by
  cases family with
  | linear => exact resample_length vector target
  | spiral =>
    simp only [kernel]
    split
    · exact List.length_replicate
    · split
      next fits => exact raise_length fits
      next => exact blockMeans_length vector target
  | fourier =>
    simp only [kernel, Dimension.spectrum]
    split
    · exact List.length_replicate
    · rw [List.length_map, List.length_range]

theorem spiral_raises (nonempty : vector ≠ []) (fits : vector.length ≤ target) :
    spiral.kernel target vector = raise vector target := by
  rw [kernel, if_neg nonempty, if_pos fits]

theorem spiral_lowers (lower : target < vector.length) :
    spiral.kernel target vector = blockMeans vector target := by
  rw [kernel, if_neg (List.ne_nil_of_length_pos (Nat.zero_lt_of_lt lower)),
    if_neg (Nat.not_le.mpr lower)]

/-- A vector that keeps its dimension is kept. -/
theorem kernel_self (other : family ≠ .fourier) (vector : List α) :
    family.kernel vector.length vector = vector := by
  cases family with
  | linear => exact resample_self vector
  | spiral =>
    by_cases empty : vector = []
    · rw [kernel, if_pos empty, empty]
      rfl
    · rw [spiral_raises empty (Nat.le_refl _), raise_self]
  | fourier => contradiction

theorem kernel_injOn (other : family ≠ .fourier) (fits : source ≤ target) :
    Set.InjOn (family.kernel (α := α) target) {v | v.length = source} := by
  cases family with
  | linear => exact resample_injOn fits
  | spiral =>
    intro v (sizeV : v.length = source) w (sizeW : w.length = source) same
    have sizes := sizeV.trans sizeW.symm
    by_cases empty : v = []
    · have none : w.length = 0 := by rw [← sizes, empty, List.length_nil]
      rw [empty, List.eq_nil_of_length_eq_zero none]
    · have nonempty : w ≠ [] :=
        List.ne_nil_of_length_pos (sizes ▸ List.length_pos_iff.mpr empty)
      rw [spiral_raises empty (sizeV ▸ fits), spiral_raises nonempty (sizeW ▸ fits)] at same
      exact List.append_inj_left same sizes
  | fourier => contradiction

/-- Without rounding, a vector that keeps or lowers its dimension has enough components for any image. -/
theorem kernel_surjOn (other : family ≠ .fourier) (fits : target ≤ source)
    (counted : source ≤ maxCount) :
    Set.SurjOn (family.kernel (α := ℝ) target) {v | v.length = source} {w | w.length = target} := by
  cases family with
  | linear => exact resample_surjOn fits
  | spiral =>
    obtain lower | rfl := Nat.lt_or_eq_of_le fits
    · refine (blockMeans_surjOn fits counted).congr fun v (size : v.length = source) => ?_
      exact (spiral_lowers (size ▸ lower)).symm
    · intro w (size : w.length = target)
      exact ⟨w, size, size ▸ kernel_self other w⟩
  | fourier => contradiction

theorem kernel_linear (other : family ≠ .fourier) (source target : Nat) :
    LinearMapping source (family.kernel target) := by
  cases family with
  | linear => exact resample_linear source target
  | spiral =>
    obtain rfl | some := Nat.eq_zero_or_pos source
    · refine .of_zeros target fun v size => ?_
      rw [kernel, if_pos (List.eq_nil_of_length_eq_zero size), literal_zero]
    · by_cases fits : source ≤ target
      · refine (raise_linear source target).congr fun v size => ?_
        exact spiral_raises (List.ne_nil_of_length_pos (size ▸ some)) (size ▸ fits)
      · refine (blockMeans_linear source target).congr fun v size => ?_
        exact spiral_lowers (size ▸ Nat.lt_of_not_le fits)
  | fourier => contradiction

end MappingFamily

namespace Mapping

theorem apply_length (settings : NumericSettings α) (family : MappingFamily) (vector : List α) :
    ((create settings source target family).apply vector).length = target :=
  family.kernel_length target vector

variable {settings : NumericSettings α} {family : MappingFamily}

theorem injective_iff (other : family ≠ .fourier) :
    (create settings source target family).injective = true ↔ source ≤ target := by
  simp [create, other]

theorem surjective_iff (other : family ≠ .fourier) :
    (create settings source target family).surjective = true ↔ target ≤ source := by
  simp [create, other]

/-- A mapping gives vectors of its target dimension, and keeps the vectors of its source if both are
the same. It separates the vectors of its source if and only if it says so, be they rounded or real.
Without rounding, it also reaches all vectors of its target if and only if it says so, up to the
largest count of components. -/
theorem flags_truthful :
    (∀ {α : Type} [Scalar α] (settings : NumericSettings α) (source target : Nat)
      (family : MappingFamily) (vector : List α), vector.length = source →
      ((create settings source target family).apply vector).length = target ∧
      (family ≠ .fourier → source = target →
        (create settings source target family).apply vector = vector)) ∧
    (∀ (settings : NumericSettings Float) (source target : Nat) (family : MappingFamily),
      family ≠ .fourier →
      let mapping := create settings source target family
      mapping.injective = true ↔ Set.InjOn mapping.apply {v | v.length = source}) ∧
    ∀ (settings : NumericSettings ℝ) (source target : Nat) (family : MappingFamily),
      family ≠ .fourier →
      let mapping := create settings source target family
      (mapping.injective = true ↔ Set.InjOn mapping.apply {v | v.length = source}) ∧
      (source ≤ maxCount → (mapping.surjective = true ↔
        Set.SurjOn mapping.apply {v | v.length = source} {w | w.length = target})) := by
  refine ⟨?_, ?_, ?_⟩
  · intro α _ settings source target family vector size
    refine ⟨apply_length settings family vector, fun other same => ?_⟩
    subst size same
    exact MappingFamily.kernel_self other vector
  · intro settings source target family other mapping
    rw [injective_iff other]
    refine ⟨MappingFamily.kernel_injOn other, ?_⟩
    exact le_of_injOn_finite fun v _ => apply_length settings family v
  · intro settings source target family other mapping
    have linear : LinearMapping source mapping.apply := MappingFamily.kernel_linear other source target
    rw [injective_iff other, surjective_iff other]
    refine ⟨⟨MappingFamily.kernel_injOn other, ?_⟩, fun counted => ⟨fun fits => ?_, ?_⟩⟩
    · exact linear.le_of_injOn fun v _ => apply_length settings family v
    · exact MappingFamily.kernel_surjOn other fits counted
    · exact linear.le_of_surjOn

/-- Between two components and four, upwards by resampling and downwards by block means. -/
theorem flags_truthful_two_four :
    (∃ settings : NumericSettings Float,
      (create settings 2 2 .linear).apply [0.1, -0] = [0.1, -0] ∧
      Set.InjOn (create settings 2 4 .linear).apply {v | v.length = 2} ∧
      ¬Set.InjOn (create settings 4 2 .spiral).apply {v | v.length = 4}) ∧
    ∃ settings : NumericSettings ℝ,
      Set.SurjOn (create settings 4 2 .spiral).apply {v | v.length = 4} {w | w.length = 2} ∧
      ¬Set.SurjOn (create settings 2 4 .linear).apply {v | v.length = 2} {w | w.length = 4} := by
  obtain ⟨kept, rounded, real⟩ := flags_truthful
  let settings : NumericSettings Float := ⟨0.001, 64, 0.001, 100⟩
  let exact : NumericSettings ℝ := ⟨0, 64, 0, 100⟩
  refine ⟨⟨settings, ?_, ?_, ?_⟩, exact, ?_, ?_⟩
  · exact (kept settings 2 2 .linear [0.1, -0] rfl).2 (by decide) rfl
  · exact (rounded settings 2 4 .linear (by decide)).mp rfl
  · exact (rounded settings 4 2 .spiral (by decide)).not.mp Bool.false_ne_true
  · exact ((real exact 4 2 .spiral (by decide)).2 (by decide)).mp rfl
  · exact ((real exact 2 4 .linear (by decide)).2 (by decide)).not.mp Bool.false_ne_true

end Mapping

end FormulaLab
