import FormulaLab.Scalar.Binary64

/-! The laws of order and addition that statements about scalars name. They hold in an ordered field
and also of rounded arithmetic, where two finite values may have an infinite sum. -/

namespace FormulaLab.Scalar

/-- What sorting needs of the total order. -/
class TotalOrder (α : Type) [Scalar α] : Prop where
  total (a b : α) : (totalLe a b || totalLe b a) = true
  trans (a b c : α) : totalLe a b = true → totalLe b c = true → totalLe a c = true

/-- Comparison is transitive, and it is linear on finite values. Negation turns it round. -/
class Ordered (α : Type) [Scalar α] : Prop extends TotalOrder α where
  le_trans (a b c : α) : a ≤ b → b ≤ c → a ≤ c
  lt_iff (a b : α) : a < b ↔ a ≤ b ∧ ¬b ≤ a
  le_total (a b : α) : isFinite a → isFinite b → a ≤ b ∨ b ≤ a
  le_of_totalLe (a b : α) : isFinite a → isFinite b → totalLe a b → a ≤ b
  neg_le (a b : α) : -a ≤ b → -b ≤ a
  abs_le (a b : α) : abs a ≤ b ↔ -b ≤ a ∧ a ≤ b
  abs_lt (a b : α) : abs a < b ↔ -b < a ∧ a < b
  isFinite_neg (a : α) : isFinite (-a) = isFinite a
  isFinite_abs (a : α) : isFinite (abs a) = isFinite a

/-- Addition is commutative and monotone, and opposite values add up to nothing. -/
class MonotoneAddition (α : Type) [Scalar α] : Prop where
  add_comm (a b : α) : a + b = b + a
  add_le_add_right (a b c : α) : isFinite a → isFinite b → isFinite c → a ≤ b → a + c ≤ b + c
  abs_add_neg_lt (a bound : α) : isFinite a → 0 < bound → abs (a + -a) < bound

/-- Words are ranked by whole numbers, also those that are not numbers. -/
instance : TotalOrder Float where
  total a b := by
    simp only [totalLe, Bool.or_eq_true, decide_eq_true_eq]
    exact Int.le_total _ _
  trans a b c := by
    simp only [totalLe, decide_eq_true_eq]
    exact Int.le_trans

variable {α : Type} [Scalar α]

theorem totalLe_of_not_totalLt {a b : α} (notLess : totalLt a b ≠ true) : totalLe b a = true := by
  simpa [totalLt] using notLess

variable [TotalOrder α]

theorem totalLe_refl (a : α) : totalLe a a = true := by
  have either := TotalOrder.total a a
  rwa [Bool.or_self] at either

theorem totalLe_of_totalLt {a b : α} (less : totalLt a b = true) : totalLe a b = true := by
  have either := TotalOrder.total a b
  simp only [totalLt, Bool.not_eq_true'] at less
  rwa [less, Bool.or_false] at either

omit [TotalOrder α]

section Ordered

variable [Ordered α] {a b c : α}

theorem le_of_lt (less : a < b) : a ≤ b := ((Ordered.lt_iff a b).mp less).1

theorem not_le_of_lt (less : a < b) : ¬b ≤ a := ((Ordered.lt_iff a b).mp less).2

theorem lt_of_lt_of_le (less : a < b) (lessEq : b ≤ c) : a < c := by
  obtain ⟨below, notAbove⟩ := (Ordered.lt_iff a b).mp less
  refine (Ordered.lt_iff a c).mpr ⟨Ordered.le_trans a b c below lessEq, fun above => ?_⟩
  exact notAbove (Ordered.le_trans b c a lessEq above)

theorem lt_of_le_of_lt (lessEq : a ≤ b) (less : b < c) : a < c := by
  obtain ⟨below, notAbove⟩ := (Ordered.lt_iff b c).mp less
  refine (Ordered.lt_iff a c).mpr ⟨Ordered.le_trans a b c lessEq below, fun above => ?_⟩
  exact notAbove (Ordered.le_trans c a b above lessEq)

theorem lt_of_not_le (finiteA : isFinite a) (finiteB : isFinite b) (notLe : ¬b ≤ a) : a < b :=
  (Ordered.lt_iff a b).mpr ⟨(Ordered.le_total a b finiteA finiteB).resolve_right notLe, notLe⟩

theorem le_refl (finite : isFinite a) : a ≤ a := (Ordered.le_total a a finite finite).elim id id

/-- A finite value lies between its magnitude and the opposite of it. -/
theorem between_abs (finite : isFinite a) : -abs a ≤ a ∧ a ≤ abs a :=
  (Ordered.abs_le a (abs a)).mp (le_refl ((Ordered.isFinite_abs a).trans finite))

/-- Of two values, a lower one of larger magnitude is at least as far below zero as the other above. -/
theorem le_neg_of_abs_lt (finiteA : isFinite a) (finiteB : isFinite b) (lessEq : a ≤ b)
    (larger : abs b < abs a) : b ≤ -a := by
  have finiteNeg : isFinite (-a) := (Ordered.isFinite_neg a).trans finiteA
  refine (Ordered.le_total b (-a) finiteB finiteNeg).resolve_right fun above => ?_
  have smaller : abs a ≤ b := (Ordered.abs_le a b).mpr ⟨Ordered.neg_le a b above, lessEq⟩
  exact not_le_of_lt larger (Ordered.le_trans _ _ _ smaller (between_abs finiteB).2)

/-- Of two values, one of magnitude at least as large is at least as far above zero as the other is
below, or it is not above the other. -/
theorem neg_le_or_le_of_not_abs_lt (finiteA : isFinite a) (finiteB : isFinite b)
    (notLarger : ¬abs b < abs a) : -b ≤ a ∨ b ≤ a := by
  refine Classical.byContradiction fun neither => ?_
  obtain ⟨below, less⟩ := not_or.mp neither
  have away : b < -a := by
    refine lt_of_not_le finiteB ((Ordered.isFinite_neg a).trans finiteA) fun above => below ?_
    exact Ordered.neg_le a b above
  have negLeAbs : -a ≤ abs a := Ordered.neg_le _ _ (between_abs finiteA).1
  refine notLarger ((Ordered.abs_lt b (abs a)).mpr ⟨?_, lt_of_lt_of_le away negLeAbs⟩)
  exact lt_of_le_of_lt (between_abs finiteA).1 (lt_of_not_le finiteA finiteB less)

end Ordered

end FormulaLab.Scalar
