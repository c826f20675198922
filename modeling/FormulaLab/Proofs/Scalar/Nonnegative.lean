import FormulaLab.Proofs.Scalar.Equality
import FormulaLab.Proofs.Scalar.Unrounded

/-! Values that are not below zero. They are numbers, and their sums are not below zero either, also
where a sum is rounded up to infinity. -/

namespace FormulaLab.Scalar

/-- A value that is not below zero is positive or equal to zero, and so is a sum of such values. -/
class NonnegativeSums (α : Type) [Scalar α] : Prop where
  zero_le : 0 ≤ (-0 : α)
  add_nonneg (a b : α) : 0 ≤ a → 0 ≤ b → 0 ≤ a + b
  pos_iff (a : α) : 0 ≤ a → (0 < a ↔ ¬(a == 0) = true)
  isNaN_of_nonneg (a : α) : 0 ≤ a → isNaN a = false

theorem sum_nonneg {α : Type} [Scalar α] [NonnegativeSums α] {xs : List α}
    (above : ∀ x ∈ xs, 0 ≤ x) : 0 ≤ sum xs := by
  have along (a : α) (start : 0 ≤ a) : 0 ≤ xs.foldl (· + ·) a := by
    induction xs generalizing a with
    | nil => exact start
    | cons x xs ih =>
      obtain ⟨first, rest⟩ := List.forall_mem_cons.mp above
      exact ih rest (a + x) (NonnegativeSums.add_nonneg a x start first)
  exact along (-0) NonnegativeSums.zero_le

end FormulaLab.Scalar

namespace FormulaLab.Binary64

open Float.Model Float.Model.UnpackedFloat

variable {x y : Float} {u v : UnpackedFloat} {s t : Sign} {w z : Nat}

theorem signed_nonneg {f : Nat → Nat} {n : Int} (above : 0 ≤ n) : 0 ≤ signed f n := by
  rw [signed, if_pos above]
  exact Int.natCast_nonneg _

theorem Encodes.eq_infinity (encodes : Encodes u s w) (infinite : ¬w < infiniteWord)
    (above : 0 ≤ s.apply w) : u = .infinity .positive := by
  cases encodes with
  | zero => exact absurd (by decide) infinite
  | finite => exact absurd (by unfold infiniteWord; omega) infinite
  | infinity =>
    cases s with
    | positive => rfl
    | negative => exact absurd above (by decide)

/-- Infinity is kept by what is not below zero. -/
theorem Encodes.infinity_add (encodes : Encodes u s w) (above : 0 ≤ s.apply w) :
    UnpackedFloat.add .binary64 (.infinity .positive) u = .infinity .positive := by
  cases encodes with
  | zero => rfl
  | finite => rfl
  | infinity =>
    cases s with
    | positive => rfl
    | negative => exact absurd above (by decide)

theorem Encodes.add_nonneg (first : Encodes u s w) (second : Encodes v t z)
    (above : 0 ≤ s.apply w) (also : 0 ≤ t.apply z) :
    ∃ r n, Encodes (UnpackedFloat.unpack .binary64 (UnpackedFloat.pack .binary64
      (UnpackedFloat.add .binary64 u v))) r n ∧ 0 ≤ r.apply n := by
  have infinite : Encodes (UnpackedFloat.unpack .binary64 (UnpackedFloat.pack .binary64
      (.infinity .positive))) .positive infiniteWord := (Encodes.infinity _).unpack_pack
  by_cases finiteU : w < infiniteWord
  · by_cases finiteV : z < infiniteWord
    · obtain ⟨r, n, encodes, sum⟩ := add_encodes first second finiteU finiteV
      refine ⟨r, n, encodes, ?_⟩
      rw [sum, ← signed_apply rfl, ← signed_apply rfl]
      exact signed_nonneg (Int.add_nonneg (signed_nonneg above) (signed_nonneg also))
    · rw [second.eq_infinity finiteV also, add_unpacked_comm, first.infinity_add above]
      exact ⟨_, _, infinite, Int.natCast_nonneg _⟩
  · rw [first.eq_infinity finiteU above, second.infinity_add also]
    exact ⟨_, _, infinite, Int.natCast_nonneg _⟩

theorem zero_le_iff : (0 : Float) ≤ x ↔ IsNumber x ∧ 0 ≤ place x := by
  rw [le_iff, place_zero, and_iff_right isNumber_zero]

theorem zero_lt_iff : (0 : Float) < x ↔ IsNumber x ∧ 0 < place x := by
  rw [lt_iff, place_zero, and_iff_right isNumber_zero]

end FormulaLab.Binary64

namespace FormulaLab.Scalar

open Binary64

instance : NonnegativeSums Float where
  zero_le := by decide +kernel
  add_nonneg a b above also := by
    obtain ⟨numberA, placeA⟩ := zero_le_iff.mp above
    obtain ⟨numberB, placeB⟩ := zero_le_iff.mp also
    obtain ⟨r, n, encodes, sum⟩ :=
      (encodes_of_isNumber numberA).add_nonneg (encodes_of_isNumber numberB) placeA placeB
    obtain ⟨number, same⟩ := @place_of_encodes (a + b) r n encodes
    exact zero_le_iff.mpr ⟨number, same ▸ sum⟩
  pos_iff a above := by
    obtain ⟨number, place⟩ := zero_le_iff.mp above
    rw [zero_lt_iff, beq_zero_iff, and_iff_right number, and_iff_right number]
    omega
  isNaN_of_nonneg a above := by
    rw [Bool.eq_false_iff]
    intro other
    exact isNumber_iff.mp (zero_le_iff.mp above).1 (isNaN_iff.mp other)

instance : NonnegativeSums ℝ where
  zero_le := by
    change ((0 : Nat) : ℝ) ≤ -((0 : Nat) : ℝ)
    rw [Nat.cast_zero, neg_zero]
  add_nonneg a b above also := by
    change ((0 : Nat) : ℝ) ≤ a + b
    change ((0 : Nat) : ℝ) ≤ a at above
    change ((0 : Nat) : ℝ) ≤ b at also
    rw [Nat.cast_zero] at above also ⊢
    exact add_nonneg above also
  pos_iff a above := by
    change ((0 : Nat) : ℝ) < a ↔ ¬decide (a = ((0 : Nat) : ℝ)) = true
    rw [decide_eq_true_iff]
    exact ⟨fun positive => positive.ne', fun other => lt_of_le_of_ne above (Ne.symm other)⟩
  isNaN_of_nonneg _ _ := rfl

open Unrounded in
instance : NonnegativeSums Unrounded where
  zero_le := by
    rw [zero_eq]
    exact finite_le.mpr neg_zero.ge
  add_nonneg a b above also := by
    rw [zero_eq] at above also ⊢
    cases a with
    | notANumber => exact above.elim
    | infinite s =>
      cases s with
      | true => exact above.elim
      | false =>
        cases b with
        | notANumber => exact also.elim
        | infinite t =>
          cases t with
          | true => exact also.elim
          | false => exact above
        | finite => exact above
    | finite x =>
      cases b with
      | notANumber => exact also.elim
      | infinite t => exact also
      | finite y => exact add_nonneg (show 0 ≤ x from above) also
  pos_iff a above := by
    rw [Unrounded.lt_iff, Unrounded.beq_iff]
    constructor
    · rintro ⟨_, notBelow⟩ ⟨below, _⟩
      exact notBelow below
    · intro other
      exact ⟨above, fun below => other ⟨below, above⟩⟩
  isNaN_of_nonneg a above := by
    cases a with
    | notANumber => exact above.elim
    | infinite => rfl
    | finite => rfl

end FormulaLab.Scalar
