import FormulaLab.Proofs.Contraction.Partition
import FormulaLab.Proofs.Scalar.Equality

/-! Cancellation depends on its values and not on how they are arranged. The total order tells any two
words apart, so there is one ordered list of the values, and everything after it follows that list. -/

namespace FormulaLab

namespace Binary64

/-- Words of the same rank are the same, also among those that are not numbers. -/
theorem eq_of_rank_eq {v w : BitVec 64} (same : rank v.toNat = rank w.toNat) : v = w := by
  have sizeV : v.toNat < 2 ^ 64 := v.isLt
  have sizeW : w.toNat < 2 ^ 64 := w.isLt
  have half : pow2 63 = 2 ^ 63 := rfl
  unfold rank at same
  rw [half] at same
  apply BitVec.eq_of_toNat_eq
  split at same <;> split at same <;> omega

end Binary64

namespace Scalar

/-- Scalars that are words of binary64, ordered by rank. Nothing is said of their arithmetic, nor of
how many words stand for what is not a number. -/
class RankedWords (α : Type) [Scalar α] where
  word : α → BitVec 64
  word_injective : Function.Injective word
  totalLe_iff (a b : α) :
    totalLe a b = true ↔ Binary64.rank (word a).toNat ≤ Binary64.rank (word b).toNat

instance : RankedWords Float where
  word x := x.toBits.toBitVec
  word_injective _ _ same := Binary64.eq_of_toNat_eq (congrArg BitVec.toNat same)
  totalLe_iff _ _ := decide_eq_true_iff

variable {α : Type} [Scalar α] [RankedWords α]

theorem totalLe_antisymm {a b : α} (below : totalLe a b = true) (above : totalLe b a = true) :
    a = b := by
  rw [RankedWords.totalLe_iff] at below above
  exact RankedWords.word_injective (Binary64.eq_of_rank_eq (Int.le_antisymm below above))

instance : TotalOrder α where
  total a b := by
    rw [Bool.or_eq_true, RankedWords.totalLe_iff, RankedWords.totalLe_iff]
    exact Int.le_total _ _
  trans a b c := by
    rw [RankedWords.totalLe_iff, RankedWords.totalLe_iff, RankedWords.totalLe_iff]
    exact Int.le_trans

end Scalar

namespace Contraction

open Scalar (RankedWords TotalOrder)
open Scalar.RankedWords (word)

variable {α : Type} [Scalar α] [RankedWords α] {values others : List α}

theorem ordered_arranged (arranged : values.Perm others) : ordered values = ordered others := by
  have sorted (values : List α) : (ordered values).Pairwise fun a b => Scalar.totalLe a b = true :=
    List.pairwise_mergeSort TotalOrder.trans TotalOrder.total values
  have complete (values : List α) : (ordered values).Perm values := List.mergeSort_perm values _
  refine List.Perm.eq_of_pairwise (fun a b _ _ => Scalar.totalLe_antisymm) (sorted values)
    (sorted others) ?_
  exact (complete values).trans (arranged.trans (complete others).symm)

theorem cancelDuals_arranged (arranged : values.Perm others) (precision : α) :
    (cancelDuals precision values).contracted = (cancelDuals precision others).contracted ∧
      (cancelDuals precision values).lossRatio = (cancelDuals precision others).lossRatio := by
  by_cases empty : values = []
  · obtain rfl := empty
    rw [arranged.nil_eq]
    exact ⟨rfl, rfl⟩
  · have nonempty : others ≠ [] := fun none => empty (none ▸ arranged).eq_nil
    rw [cancelDuals_eq empty, cancelDuals_eq nonempty, ordered_arranged arranged,
      arranged.length_eq]
    exact ⟨rfl, rfl⟩

/-- Any arrangement of the same values is contracted to the same word with the same loss, although the
arrangement may change a rounded sum of them. -/
theorem cancellation_ignores_arrangement :
    (∀ {α : Type} [Scalar α] [RankedWords α] (precision : α) {values others : List α},
      values.Perm others →
        word (cancelDuals precision values).contracted =
          word (cancelDuals precision others).contracted ∧
        word (cancelDuals precision values).lossRatio =
          word (cancelDuals precision others).lossRatio) ∧
    ∃ values others : List Float, values.Perm others ∧
      word (Scalar.sum values) ≠ word (Scalar.sum others) := by
  constructor
  · intro α _ _ precision values others arranged
    obtain ⟨contracted, loss⟩ := cancelDuals_arranged arranged precision
    rw [contracted, loss]
    exact ⟨rfl, rfl⟩
  · refine ⟨[1, 1e16, -1e16], [1e16, -1e16, 1], ?_, by decide +kernel⟩
    exact (List.perm_append_singleton 1 [1e16, -1e16]).symm

/-- Both zeros, both infinities and what is not a number, read forwards and backwards. -/
theorem cancellation_ignores_arrangement_reversed :
    let values : List Float := [0 / 0, 0, 1 / 0, 0.1, -0, 0.2, -1 / 0]
    values.Perm values.reverse ∧
      word (cancelDuals 0.05 values).contracted = word (cancelDuals 0.05 values.reverse).contracted ∧
      word (cancelDuals 0.05 values).lossRatio = word (cancelDuals 0.05 values.reverse).lossRatio := by
  intro values
  have arranged : values.Perm values.reverse := (List.reverse_perm values).symm
  exact ⟨arranged, cancellation_ignores_arrangement.1 0.05 arranged⟩

end Contraction
end FormulaLab
