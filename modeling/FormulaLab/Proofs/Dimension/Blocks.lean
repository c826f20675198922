import FormulaLab.Dimension.Resize
import FormulaLab.Proofs.Scalar.Means

/-! Lowering a vector tiles it. Where the block size and its multiples are read without rounding, the
blocks follow one another from the start of the vector to its end, and no two of them differ in length
by more than one. -/

namespace FormulaLab.Dimension

open Scalar (SingleMean)

/-! Multiples of a fraction, rounded down. -/

section Floors

variable {length target k : Nat}

theorem succ_mul_div_le (some : 0 < target) (fits : target ≤ length) :
    k * length / target + 1 ≤ (k + 1) * length / target := by
  rw [← Nat.add_div_right _ some, Nat.succ_mul]
  exact Nat.div_le_div_right (Nat.add_le_add_left fits _)

theorem mul_div_le_length (inside : k ≤ target) : k * length / target ≤ length := by
  obtain rfl | some := Nat.eq_zero_or_pos target
  · rw [Nat.div_zero]
    exact Nat.zero_le _
  · rw [Nat.div_le_iff_le_mul some]
    have whole := Nat.mul_le_mul_right length inside
    rw [Nat.mul_comm target] at whole
    omega

theorem ceilDiv_of_mod_pos (some : 0 < target) (rest : 0 < length % target) :
    length ⌈/⌉ target = length / target + 1 := by
  have whole := Nat.div_add_mod length target
  have small := Nat.mod_lt length some
  have split : length + target - 1 = target * (length / target + 1) + (length % target - 1) := by
    rw [Nat.mul_add, Nat.mul_one]
    omega
  have none : (length % target - 1) / target = 0 := Nat.div_eq_of_lt (by omega)
  rw [Nat.ceilDiv_eq_add_pred_div, split, Nat.mul_add_div some, none, Nat.add_zero]

/-- Neighbouring multiples are a whole number apart that is next to the fraction. -/
theorem mul_div_sub_mul_div (some : 0 < target) :
    (k + 1) * length / target - k * length / target = length / target ∨
      (k + 1) * length / target - k * length / target = length ⌈/⌉ target := by
  rw [Nat.succ_mul, Nat.add_div some, Nat.add_assoc, Nat.add_sub_cancel_left]
  split
  next carry =>
    have small := Nat.mod_lt (k * length) some
    exact .inr (ceilDiv_of_mod_pos some (by omega)).symm
  next => exact .inl (Nat.add_zero _)

end Floors

variable {α : Type} [Scalar α] {vector : List α} {length target k : Nat}

/-- The block size and its multiples are read as the fractions that they are. -/
def ReadExactly (α : Type) [Scalar α] (length target : Nat) : Prop :=
  ∀ k < target, blockStart (α := α) length target k = k * length / target

instance (α : Type) [Scalar α] (length target : Nat) : Decidable (ReadExactly α length target) :=
  inferInstanceAs (Decidable (∀ k < target, _))

/-- Among the real numbers nothing but the largest count is in the way. -/
theorem readExactly_real (target : Nat) (counted : length ≤ maxCount) :
    ReadExactly ℝ length target := by
  intro k inside
  have fraction : (k : ℝ) * ((length : ℝ) / (target : ℝ)) =
      ((k * length : Nat) : ℝ) / (target : ℝ) := by
    rw [Nat.cast_mul, mul_div_assoc]
  change min maxCount ⌊(k : ℝ) * ((length : ℝ) / (target : ℝ))⌋₊ = _
  rw [fraction, Nat.floor_div_eq_div]
  exact Nat.min_eq_right (Nat.le_trans (mul_div_le_length (Nat.le_of_lt inside)) counted)

namespace ReadExactly

variable (exact : ReadExactly α length target) (some : 0 < target) (fits : target ≤ length)
include exact some fits

theorem blockEnd_eq (inside : k < target) :
    blockEnd α length target k = (k + 1) * length / target := by
  rw [blockEnd]
  split
  next last => rw [last, Nat.mul_div_cancel_left _ some]
  next notLast =>
    rw [exact k inside, exact (k + 1) (by omega)]
    exact Nat.max_eq_left (succ_mul_div_le some fits)

end ReadExactly

def blockLength (α : Type) [Scalar α] (length target k : Nat) : Nat :=
  blockEnd α length target k - blockStart (α := α) length target k

/-- The blocks of a vector are slices of it without a gap or an overlap, all of nearly the same length. -/
structure Tiles (α : Type) [Scalar α] (length target : Nat) : Prop where
  first : blockStart (α := α) length target 0 = 0
  meets : ∀ k, k + 1 < target →
    blockEnd α length target k = blockStart (α := α) length target (k + 1)
  last : ∀ k, k + 1 = target → blockEnd α length target k = length
  nonempty : ∀ k < target, blockStart (α := α) length target k < blockEnd α length target k
  within : ∀ k < target, blockEnd α length target k ≤ length
  even : ∀ k < target, blockLength α length target k = length / target ∨
    blockLength α length target k = length ⌈/⌉ target

theorem ReadExactly.tiles (exact : ReadExactly α length target) (some : 0 < target)
    (fits : target ≤ length) : Tiles α length target where
  first := by rw [exact 0 some, Nat.zero_mul, Nat.zero_div]
  meets k inside := by rw [exact.blockEnd_eq some fits (by omega), exact (k + 1) inside]
  last k last := by rw [blockEnd, if_pos last]
  nonempty k inside := by
    rw [exact k inside, exact.blockEnd_eq some fits inside]
    exact succ_mul_div_le some fits
  within k inside := by
    rw [exact.blockEnd_eq some fits inside]
    exact mul_div_le_length inside
  even k inside := by
    rw [blockLength, exact k inside, exact.blockEnd_eq some fits inside]
    exact mul_div_sub_mul_div some

namespace Tiles

variable (tiles : Tiles α vector.length target)
include tiles

theorem blockLength_pos (inside : k < target) : 0 < blockLength α vector.length target k :=
  Nat.sub_pos_of_lt (tiles.nonempty k inside)

theorem block_length (inside : k < target) :
    (block vector target k).length = blockLength α vector.length target k := by
  have within := tiles.within k inside
  rw [block, blockLength, List.length_take, List.length_drop]
  omega

/-- The blocks before one of them are the vector up to its start. -/
theorem flatMap_block_take (inside : k < target) :
    (List.range k).flatMap (block vector target) =
      vector.take (blockStart (α := α) vector.length target k) := by
  induction k with
  | zero => rw [tiles.first, List.range_zero, List.flatMap_nil, List.take_zero]
  | succ k ih =>
    have before : k < target := Nat.lt_of_succ_lt inside
    have nonempty := tiles.nonempty k before
    -- The block starts where the vector is cut, and ends where the next block starts.
    rw [List.range_succ, List.flatMap_append, ih before, List.flatMap_singleton, block,
      ← List.take_add, ← tiles.meets k inside]
    congr 1
    omega

/-- The blocks, one behind the other, are the vector. -/
theorem flatMap_block (some : 0 < target) :
    (List.range target).flatMap (block vector target) = vector := by
  obtain ⟨k, rfl⟩ : ∃ k, target = k + 1 := ⟨target - 1, by omega⟩
  have inside : k < k + 1 := Nat.lt_succ_self k
  have nonempty := tiles.nonempty k inside
  have last := tiles.last k rfl
  rw [List.range_succ, List.flatMap_append, tiles.flatMap_block_take inside, List.flatMap_singleton,
    block, ← List.take_add]
  exact List.take_of_length_le (by omega)

end Tiles

theorem blockMeans_length (vector : List α) (target : Nat) :
    (blockMeans vector target).length = target := by
  simp only [blockMeans, List.length_map, List.length_range]

/-- A lowered vector holds the means of the tiles. -/
structure Lowers (vector : List α) (target : Nat) (means : List α) : Prop where
  tiles : Tiles α vector.length target
  sizes : ∀ k < target, (block vector target k).length = blockLength α vector.length target k
  whole : (List.range target).flatMap (block vector target) = vector
  means : means = (List.range target).map fun k =>
    Scalar.sum (block vector target k) / Scalar.ofNat (blockLength α vector.length target k)

theorem reduce_within (some : 0 < target) (fits : target ≤ vector.length) :
    reduce vector target = .ok (blockMeans vector target) := by
  rw [reduce, if_neg (by omega)]

theorem ReadExactly.lowers (exact : ReadExactly α vector.length target) (some : 0 < target)
    (fits : target ≤ vector.length) : Lowers vector target (blockMeans vector target) := by
  have tiles := exact.tiles some fits
  refine ⟨tiles, fun k => tiles.block_length, tiles.flatMap_block some, ?_⟩
  refine List.map_congr_left fun k member => ?_
  dsimp only
  rw [tiles.block_length (List.mem_range.mp member)]

/-- Blocks of one component each have the components for their means. -/
theorem ReadExactly.blockMeans_self [SingleMean α] (exact : ReadExactly α vector.length vector.length) :
    blockMeans vector vector.length = vector := by
  refine List.ext_getElem (blockMeans_length _ _) fun k _ inside => ?_
  have some : 0 < vector.length := Nat.lt_of_le_of_lt (Nat.zero_le k) inside
  have start : blockStart (α := α) vector.length vector.length k = k := by
    rw [exact k inside, Nat.mul_div_cancel _ some]
  have behind : blockEnd α vector.length vector.length k = k + 1 := by
    rw [exact.blockEnd_eq some (Nat.le_refl _) inside, Nat.mul_div_cancel _ some]
  have single : block vector vector.length k = [vector[k]] := by
    rw [block, start, behind, Nat.add_sub_cancel_left, List.drop_eq_getElem_cons inside]
    rfl
  simp only [blockMeans, List.getElem_map, List.getElem_range, single]
  exact SingleMean.mean_single _

/-- Without rounding, the means weighted by the lengths of their blocks add up to the vector. -/
theorem Lowers.weighted_sum {vector means : List ℝ} (lowers : Lowers vector target means) :
    (List.zipWith (· * ·) ((List.range target).map fun k =>
      (blockLength ℝ vector.length target k : ℝ)) means).sum = vector.sum := by
  have product : ∀ k ∈ List.range target, (blockLength ℝ vector.length target k : ℝ) *
      (Scalar.sum (block vector target k) / (blockLength ℝ vector.length target k : ℝ)) =
        (block vector target k).sum := by
    intro k member
    have positive := lowers.tiles.blockLength_pos (List.mem_range.mp member)
    rw [Scalar.sum_real, mul_div_cancel₀ _ (Nat.cast_ne_zero.mpr (Nat.ne_of_gt positive))]
  rw [lowers.means, List.zipWith_map, List.zipWith_self]
  refine (congrArg List.sum (List.map_congr_left product)).trans ?_
  have all := congrArg List.sum lowers.whole
  rwa [List.flatMap_def, List.sum_flatten, List.map_map] at all

/-- A vector is lowered to any dimension from one up to its own, and to no other. Where the block size
is read exactly, what is returned are the means of blocks that tile the vector, and of the vector
itself where the dimension stays. The real numbers read it exactly up to the largest count, and among
them the weighted means add up to the vector. -/
theorem reduction_tiles :
    (∀ {α : Type} [Scalar α] (vector : List α) (target : Nat),
      0 < target → target ≤ vector.length → ReadExactly α vector.length target →
      ∃ means, reduce vector target = .ok means ∧ Lowers vector target means) ∧
    (∀ {α : Type} [Scalar α] [SingleMean α] (vector : List α), vector ≠ [] →
      ReadExactly α vector.length vector.length → reduce vector vector.length = .ok vector) ∧
    (∀ (vector : List ℝ) (target : Nat),
      0 < target → target ≤ vector.length → vector.length ≤ maxCount →
      ReadExactly ℝ vector.length target ∧ ∃ means, reduce vector target = .ok means ∧
        (List.zipWith (· * ·) ((List.range target).map fun k =>
          (blockLength ℝ vector.length target k : ℝ)) means).sum = vector.sum) ∧
    ∀ {α : Type} [Scalar α] (vector : List α) (target : Nat),
      ¬(0 < target ∧ target ≤ vector.length) →
      reduce vector target = .error (.invalidDimension .reduce vector.length target) := by
  refine ⟨?_, ?_, ?_, ?_⟩
  · intro α _ vector target some fits exact
    exact ⟨_, reduce_within some fits, exact.lowers some fits⟩
  · intro α _ _ vector nonempty exact
    rw [reduce_within (List.length_pos_iff.mpr nonempty) (Nat.le_refl _), exact.blockMeans_self]
  · intro vector target some fits counted
    have exact := readExactly_real target counted
    exact ⟨exact, _, reduce_within some fits, (exact.lowers some fits).weighted_sum⟩
  · intro α _ vector target outside
    exact if_pos (by omega)

/-- Three rounded components in two blocks, the same three in as many, and three real ones in two. -/
theorem reduction_tiles_three :
    let vector : List Float := [0.1, 2, -0]
    (∃ means, reduce vector 2 = .ok means ∧ means.length = 2 ∧
      (block vector 2 0).length = 1 ∧ (block vector 2 1).length = 2) ∧
    reduce vector 3 = .ok vector ∧
    (∃ means, reduce ([1, 1, 0] : List ℝ) 2 = .ok means ∧
      (List.zipWith (· * ·) ((List.range 2).map fun k => (blockLength ℝ 3 2 k : ℝ)) means).sum =
        ([1, 1, 0] : List ℝ).sum) ∧
    reduce vector 4 = .error (.invalidDimension .reduce 3 4) := by
  intro vector
  obtain ⟨tiling, same, weighted, refused⟩ := reduction_tiles
  obtain ⟨means, lowered, lowers⟩ := tiling vector 2 (by decide) (by decide) (by decide +kernel)
  refine ⟨⟨means, lowered, ?_, ?_, ?_⟩, ?_, ?_, refused vector 4 (by decide)⟩
  · rw [lowers.means, List.length_map, List.length_range]
  · exact (lowers.sizes 0 (by decide)).trans (by decide +kernel)
  · exact (lowers.sizes 1 (by decide)).trans (by decide +kernel)
  · exact same vector (List.cons_ne_nil _ _) (by decide +kernel)
  · exact (weighted [1, 1, 0] 2 (by decide) (by decide) (by decide +kernel)).2

end FormulaLab.Dimension
