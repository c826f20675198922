import FormulaLab.Contraction
import FormulaLab.Proofs.Scalar.Order
import FormulaLab.Proofs.Contraction.Matching

/-! The cancelling sweep step by step: its cases, and what the ends of an ordered window decide. -/

namespace FormulaLab.Contraction

open Scalar (Ordered MonotoneAddition isFinite)

variable {α : Type} [Scalar α]

/-- The sum of the two values is below the precision. -/
def Cancels (precision a b : α) : Prop := Scalar.abs (a + b) < precision

instance (precision a b : α) : Decidable (Cancels precision a b) :=
  inferInstanceAs (Decidable (Scalar.abs (a + b) < precision))

/-- The cases of the sweep, with the ends of a window written out. -/
inductive Swept (precision : α) : List α → Cancellation α → Prop where
  | empty : Swept precision [] ⟨[], []⟩
  | last (v : α) : Swept precision [v] ⟨[v], []⟩
  | cancel {low high : α} {middle : List α} {swept : Cancellation α} :
      Cancels precision low high → Swept precision middle swept →
      Swept precision (low :: (middle ++ [high])) ⟨swept.survivors, (low, high) :: swept.pairs⟩
  | keepLow {low high : α} {middle : List α} {swept : Cancellation α} :
      ¬Cancels precision low high → Scalar.abs high < Scalar.abs low →
      Swept precision (middle ++ [high]) swept →
      Swept precision (low :: (middle ++ [high])) ⟨low :: swept.survivors, swept.pairs⟩
  | keepHigh {low high : α} {middle : List α} {swept : Cancellation α} :
      ¬Cancels precision low high → ¬Scalar.abs high < Scalar.abs low →
      Swept precision (low :: middle) swept →
      Swept precision (low :: (middle ++ [high])) ⟨high :: swept.survivors, swept.pairs⟩

theorem sweep_swept (precision : α) (window : List α) :
    Swept precision window (sweep precision window) := by
  fun_induction sweep precision window with
  | case1 => exact .empty
  | case2 last => exact .last last
  | case3 low next rest high middle cancels swept ih =>
    have ends : next :: rest = middle ++ [high] := (List.dropLast_concat_getLast _).symm
    rw [ends]
    exact .cancel cancels ih
  | case4 low next rest high apart larger swept ih =>
    have ends : next :: rest = (next :: rest).dropLast ++ [high] :=
      (List.dropLast_concat_getLast _).symm
    have step : Swept precision ((next :: rest).dropLast ++ [high]) swept := by
      rw [← ends]
      exact ih
    have kept := Swept.keepLow apart larger step
    rwa [← ends] at kept
  | case5 low next rest high middle apart notLarger swept ih =>
    have ends : next :: rest = middle ++ [high] := (List.dropLast_concat_getLast _).symm
    rw [ends]
    exact .keepHigh apart notLarger ih

omit [Scalar α] in
/-- A window as a multiset, its ends in front. -/
theorem coe_window (low high : α) (middle : List α) :
    (↑(low :: (middle ++ [high])) : Multiset α) = low ::ₘ high ::ₘ ↑middle := by
  rw [← Multiset.cons_coe, ← Multiset.coe_add, Multiset.coe_singleton, Multiset.add_comm,
    Multiset.singleton_add]

/-- The cancelled pairs and the survivors are the values of the window. -/
theorem Swept.partition {precision : α} {window : List α} {swept : Cancellation α}
    (run : Swept precision window swept) :
    (window : Multiset α) = ↑(ends swept.pairs) + ↑swept.survivors := by
  induction run with
  | empty => rfl
  | last v => rfl
  | cancel _ _ ih =>
    rw [coe_window, ih, ends_cons, ← Multiset.cons_coe, ← Multiset.cons_coe, Multiset.cons_add,
      Multiset.cons_add]
  | keepLow _ _ _ ih => rw [← Multiset.cons_coe, ih, ← Multiset.cons_coe, Multiset.add_cons]
  | @keepHigh low high middle _ _ _ _ ih =>
    rw [coe_window, Multiset.cons_swap, Multiset.cons_coe, ih, ← Multiset.cons_coe,
      Multiset.add_cons]

theorem Swept.cancels {precision : α} {window : List α} {swept : Cancellation α}
    (run : Swept precision window swept) : ∀ p ∈ swept.pairs, Cancels precision p.1 p.2 := by
  induction run with
  | empty => simp
  | last v => simp
  | cancel cancels _ ih => exact List.forall_mem_cons.mpr ⟨cancels, ih⟩
  | keepLow _ _ _ ih => exact ih
  | keepHigh _ _ _ ih => exact ih

/-- A finite value between two others. -/
structure Within (low high x : α) : Prop where
  finite : isFinite x
  above : low ≤ x
  below : x ≤ high

variable [Ordered α] [MonotoneAddition α] {precision low high x y : α}

omit [Ordered α] in
theorem Cancels.symm (cancels : Cancels precision x y) : Cancels precision y x := by
  rwa [Cancels, MonotoneAddition.add_comm]

/-- Partners of the ends of a window cancel with each other, so the ends may be cancelled instead. -/
theorem Cancels.exchange (finiteLow : isFinite low) (finiteHigh : isFinite high)
    (withinX : Within low high x) (withinY : Within low high y)
    (first : Cancels precision low x) (second : Cancels precision high y) :
    Cancels precision x y := by
  have lower := ((Ordered.abs_lt _ _).mp first).1
  have upper := ((Ordered.abs_lt _ _).mp second).2
  have raise : low + x ≤ y + x :=
    MonotoneAddition.add_le_add_right low y x finiteLow withinY.finite withinX.finite withinY.above
  have sink : x + y ≤ high + y :=
    MonotoneAddition.add_le_add_right x high y withinX.finite finiteHigh withinY.finite withinX.below
  rw [MonotoneAddition.add_comm y x] at raise
  exact (Ordered.abs_lt _ _).mpr
    ⟨Scalar.lt_of_lt_of_le lower raise, Scalar.lt_of_le_of_lt sink upper⟩

/-- A lower end of larger magnitude cancels with nothing if it does not cancel with the upper end. -/
theorem not_cancels_low (positive : 0 < precision) (finiteLow : isFinite low)
    (finiteHigh : isFinite high) (lessEq : low ≤ high) (apart : ¬Cancels precision low high)
    (larger : Scalar.abs high < Scalar.abs low) (within : Within low high x) :
    ¬Cancels precision low x := by
  intro cancels
  have opposite : high + low ≤ -low + low :=
    MonotoneAddition.add_le_add_right high (-low) low finiteHigh
      ((Ordered.isFinite_neg low).trans finiteLow) finiteLow
      (Scalar.le_neg_of_abs_lt finiteLow finiteHigh lessEq larger)
  have nothing := (Ordered.abs_lt _ _).mp
    (MonotoneAddition.abs_add_neg_lt low precision finiteLow positive)
  have raise : x + low ≤ high + low :=
    MonotoneAddition.add_le_add_right x high low within.finite finiteHigh finiteLow within.below
  have lower := ((Ordered.abs_lt _ _).mp cancels).1
  rw [MonotoneAddition.add_comm (-low)] at opposite
  rw [MonotoneAddition.add_comm low x] at lower
  refine apart (Cancels.symm ((Ordered.abs_lt _ _).mpr ⟨?_, ?_⟩))
  · exact Scalar.lt_of_lt_of_le lower raise
  · exact Scalar.lt_of_le_of_lt opposite nothing.2

/-- Likewise an upper end of magnitude at least as large. -/
theorem not_cancels_high (positive : 0 < precision) (finiteLow : isFinite low)
    (finiteHigh : isFinite high) (apart : ¬Cancels precision low high)
    (notLarger : ¬Scalar.abs high < Scalar.abs low) (within : Within low high x) :
    ¬Cancels precision high x := by
  intro cancels
  obtain ⟨lower, upper⟩ := (Ordered.abs_lt _ _).mp cancels.symm
  have sink : low + high ≤ x + high :=
    MonotoneAddition.add_le_add_right low x high finiteLow within.finite finiteHigh within.above
  refine apart ((Ordered.abs_lt _ _).mpr ⟨?_, Scalar.lt_of_le_of_lt sink upper⟩)
  obtain far | same := Scalar.neg_le_or_le_of_not_abs_lt finiteLow finiteHigh notLarger
  · have opposite : -high + high ≤ low + high :=
      MonotoneAddition.add_le_add_right (-high) low high
        ((Ordered.isFinite_neg high).trans finiteHigh) finiteLow finiteHigh far
    have nothing := (Ordered.abs_lt _ _).mp
      (MonotoneAddition.abs_add_neg_lt high precision finiteHigh positive)
    rw [MonotoneAddition.add_comm (-high)] at opposite
    exact Scalar.lt_of_lt_of_le nothing.1 opposite
  · have raise : x + high ≤ low + high :=
      MonotoneAddition.add_le_add_right x low high within.finite finiteLow finiteHigh
        (Ordered.le_trans x high low within.below same)
    exact Scalar.lt_of_lt_of_le lower raise

end FormulaLab.Contraction
