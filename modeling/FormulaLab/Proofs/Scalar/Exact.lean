import FormulaLab.Proofs.Scalar.Order
import Mathlib

/-! Exact arithmetic: real numbers are scalars too, all of them finite, and obey the laws of order and
addition. What is proved from the laws holds without rounding as well. -/

namespace FormulaLab

open Classical in
noncomputable instance : Scalar ℝ where
  beq a b := decide (a = b)
  decidableLT := inferInstance
  decidableLE := inferInstance
  ofNat n := n
  abs a := |a|
  isNaN _ := false
  isFinite _ := true
  totalLe a b := decide (a ≤ b)
  floorNat x := min maxCount ⌊x⌋₊
  roundNat x := min maxCount ⌊x + 1 / 2⌋₊
  sqrt := Real.sqrt
  exp := Real.exp
  ln := Real.log
  sin := Real.sin
  cos := Real.cos
  tanh := Real.tanh
  pow a b := a ^ b

open Scalar (Ordered MonotoneAddition)

instance : Ordered ℝ where
  total a b :=
    Bool.or_eq_true_iff.mpr ((le_total a b).imp (decide_eq_true ·) (decide_eq_true ·))
  trans _ _ _ first second :=
    decide_eq_true (le_trans (of_decide_eq_true first) (of_decide_eq_true second))
  le_trans _ _ _ := le_trans
  lt_iff _ _ := lt_iff_le_not_ge
  le_total a b _ _ := le_total a b
  le_of_totalLe _ _ _ _ := of_decide_eq_true
  neg_le _ _ := neg_le.mp
  abs_le _ _ := abs_le
  abs_lt _ _ := abs_lt
  isFinite_neg _ := rfl
  isFinite_abs _ := rfl

instance : MonotoneAddition ℝ where
  add_comm := add_comm
  add_le_add_right _ _ c _ _ _ less := add_le_add_left less c
  abs_add_neg_lt a bound _ positive := by
    change |a + -a| < bound
    rw [add_neg_cancel, abs_zero, ← Nat.cast_zero]
    exact positive

theorem Scalar.sum_real (xs : List ℝ) : Scalar.sum xs = xs.sum := by
  have start : -((0 : Nat) : ℝ) = 0 := by rw [Nat.cast_zero, neg_zero]
  rw [List.sum_eq_foldl, ← start]
  rfl

end FormulaLab
