import Mathlib
import FormulaLab.Proofs.Contraction.Sweep
import FormulaLab.Proofs.Scalar.Exact
import FormulaLab.Proofs.Scalar.Laws

/-! Cancellation is optimal: no matching of the positions of a list cancels more pairs than the sweep. -/

namespace FormulaLab.Contraction

open Scalar (Ordered MonotoneAddition isFinite)

variable {α : Type} [Scalar α] [Ordered α] [MonotoneAddition α]
variable {precision low high : α} {window middle : List α} {swept : Cancellation α}

/-- Finite values in ascending order. -/
structure Rising (window : List α) : Prop where
  finite : ∀ v ∈ window, isFinite v
  ascending : window.Pairwise (· ≤ ·)

namespace Rising

omit [Ordered α] [MonotoneAddition α] in
theorem sublist {inner : List α} (rising : Rising window) (part : inner.Sublist window) :
    Rising inner :=
  ⟨fun v member => rising.finite v (part.subset member), rising.ascending.sublist part⟩

omit [Ordered α] [MonotoneAddition α] in
theorem ends_finite (rising : Rising (low :: (middle ++ [high]))) : isFinite low ∧ isFinite high :=
  ⟨rising.finite low (by simp), rising.finite high (by simp)⟩

omit [MonotoneAddition α] in
/-- Every value of a window is within its ends. -/
theorem within (rising : Rising (low :: (middle ++ [high]))) :
    ∀ x ∈ low :: (middle ++ [high]), Within low high x := by
  obtain ⟨finiteLow, finiteHigh⟩ := rising.ends_finite
  have above := (List.pairwise_cons.mp rising.ascending).1
  have joined : ((low :: middle) ++ [high]).Pairwise (· ≤ ·) := rising.ascending
  have below := (List.pairwise_append.mp joined).2.2
  intro x member
  refine ⟨rising.finite x member, ?_, ?_⟩
  · obtain rfl | later := List.mem_cons.mp member
    · exact Scalar.le_refl finiteLow
    · exact above x later
  · rw [← List.cons_append] at member
    obtain before | last := List.mem_append.mp member
    · exact below x before high (by simp)
    · obtain rfl := List.mem_singleton.mp last
      exact Scalar.le_refl finiteHigh

end Rising

/-- No more pairs can be taken out of an ordered window than the sweep cancels. -/
theorem Swept.maximum (positive : 0 < precision) (run : Swept precision window swept)
    (rising : Rising window) {k : Nat} (pairable : Pairable (Cancels precision) k window) :
    k ≤ swept.pairs.length := by
  have symmetric : ∀ a b : α, Cancels precision a b → Cancels precision b a :=
    fun _ _ cancels => cancels.symm
  induction run generalizing k with
  | empty =>
    have few := pairable.two_mul_le_card
    simp only [Multiset.coe_nil, Multiset.card_zero] at few
    omega
  | last v =>
    have few := pairable.two_mul_le_card
    simp only [Multiset.coe_card, List.length_singleton] at few
    omega
  | @cancel low high middle _ _ _ ih =>
    obtain ⟨finiteLow, finiteHigh⟩ := rising.ends_finite
    have within : ∀ x ∈ (middle : Multiset α), Within low high x := fun x member =>
      rising.within x (List.mem_cons_of_mem low (List.mem_append_left [high] member))
    have inner : Rising middle :=
      rising.sublist (List.sublist_cons_of_sublist low (List.sublist_append_left middle [high]))
    rw [coe_window] at pairable
    have fewer := ih inner <| pairable.exchange symmetric fun x inX y inY first second =>
      Cancels.exchange finiteLow finiteHigh (within x inX) (within y inY) first second
    rw [List.length_cons]
    omega
  | @keepLow low high middle _ apart larger _ ih =>
    obtain ⟨finiteLow, finiteHigh⟩ := rising.ends_finite
    have lessEq := (rising.within low List.mem_cons_self).below
    rw [← Multiset.cons_coe] at pairable
    obtain free | ⟨y, t, _, others, cancels, _⟩ := pairable.cons_cases symmetric
    · exact ih (rising.sublist (List.sublist_cons_self low _)) free
    have member : y ∈ middle ++ [high] := Multiset.mem_coe.mp (others ▸ Multiset.mem_cons_self y t)
    have within := rising.within y (List.mem_cons_of_mem low member)
    exact absurd cancels
      (not_cancels_low positive finiteLow finiteHigh lessEq apart larger within)
  | @keepHigh low high middle _ apart notLarger _ ih =>
    obtain ⟨finiteLow, finiteHigh⟩ := rising.ends_finite
    rw [coe_window, Multiset.cons_swap, Multiset.cons_coe] at pairable
    obtain free | ⟨y, t, _, others, cancels, _⟩ := pairable.cons_cases symmetric
    · exact ih (rising.sublist (List.sublist_append_left (low :: middle) [high])) free
    have member : y ∈ low :: middle := Multiset.mem_coe.mp (others ▸ Multiset.mem_cons_self y t)
    have within := rising.within y (List.mem_append_left [high] member)
    exact absurd cancels (not_cancels_high positive finiteLow finiteHigh apart notLarger within)

/-- Survivors that cancelled each other would make one pair more. -/
theorem Swept.survivors_apart (positive : 0 < precision) (run : Swept precision window swept)
    (rising : Rising window) : swept.survivors.Pairwise fun a b => ¬Cancels precision a b := by
  refine List.pairwise_iff_forall_sublist.mpr fun {a b} two cancels => ?_
  have among : (↑[a, b] : Multiset α) ≤ swept.survivors := two.subperm
  obtain ⟨rest, others⟩ := Multiset.le_iff_exists_add.mp among
  have whole : (window : Multiset α) = a ::ₘ b ::ₘ (↑(ends swept.pairs) + rest) := by
    rw [run.partition, others, ← Multiset.cons_coe, ← Multiset.cons_coe, Multiset.coe_nil,
      Multiset.cons_add, Multiset.cons_add, Multiset.zero_add, Multiset.add_cons, Multiset.add_cons]
  have pairable := Pairable.pair cancels (Pairable.of_pairs run.cancels rest)
  rw [← whole] at pairable
  exact Nat.not_succ_le_self _ (run.maximum positive rising pairable)

omit [MonotoneAddition α] in
theorem ordered_rising {values : List α} (finite : ∀ v ∈ values, isFinite v) :
    Rising (ordered values) := by
  have member : ∀ v ∈ ordered values, v ∈ values := fun v => List.mem_mergeSort.mp
  have sorted : (ordered values).Pairwise fun a b => Scalar.totalLe a b :=
    List.pairwise_mergeSort (fun a b c => Ordered.toTotalOrder.trans a b c)
      (fun a b => Ordered.toTotalOrder.total a b) values
  refine ⟨fun v inside => finite v (member v inside), sorted.imp_of_mem fun inA inB => ?_⟩
  exact Ordered.le_of_totalLe _ _ (finite _ (member _ inA)) (finite _ (member _ inB))

/-- A cancellation of the values that leaves as few survivors as any. -/
structure Optimal (precision : α) (values : List α) (swept : Cancellation α) : Prop where
  /-- The cancelled pairs and the survivors are the values. -/
  partition : (ends swept.pairs ++ swept.survivors).Perm values
  cancels : ∀ p ∈ swept.pairs, Cancels precision p.1 p.2
  /-- The largest matchings of positions whose values cancel have as many pairs. -/
  greatest : IsGreatest {k | ∃ pairs : List (Fin values.length × Fin values.length),
    Matching (fun i j => Cancels precision (values.get i) (values.get j)) pairs ∧
      pairs.length = k} swept.pairs.length
  fewest : swept.survivors.length + 2 * swept.pairs.length = values.length
  apart : swept.survivors.Pairwise fun a b => ¬Cancels precision a b

/-- Cancellation is optimal for finite values at every positive precision. -/
theorem cancelDuals_optimal {values : List α} (finite : ∀ v ∈ values, isFinite v)
    (positive : 0 < precision) :
    Optimal precision values (sweep precision (ordered values)) ∧
      (values ≠ [] → cancelDuals precision values =
        ⟨values, Scalar.sum (sweep precision (ordered values)).survivors,
          Scalar.ofNat (sweep precision (ordered values)).survivors.length /
            Scalar.ofNat values.length⟩) := by
  refine ⟨?_, fun nonempty => if_neg nonempty⟩
  have run := sweep_swept precision (ordered values)
  generalize sweep precision (ordered values) = swept at run ⊢
  have rising := ordered_rising finite
  have sorted : (ordered values : Multiset α) = values :=
    Multiset.coe_eq_coe.mpr (List.mergeSort_perm values Scalar.totalLe)
  have partition := run.partition
  rw [sorted] at partition
  have perm : (ends swept.pairs ++ swept.survivors).Perm values :=
    Multiset.coe_eq_coe.mp (by rw [partition, Multiset.coe_add])
  refine ⟨perm, run.cancels, ⟨?_, ?_⟩, ?_, run.survivors_apart positive rising⟩
  · rw [Set.mem_ofPred_eq, exists_matching_iff, partition]
    exact Pairable.of_pairs run.cancels _
  · rintro k matching
    rw [Set.mem_ofPred_eq, exists_matching_iff, ← sorted] at matching
    exact run.maximum positive rising matching
  · rw [← perm.length_eq, List.length_append, length_ends, Nat.add_comm]

/-- Five rounded values make two pairs, one of opposites and one of small values. Without rounding,
two of three values cancel. -/
theorem cancelDuals_optimal_five :
    let values : List Float := [0.3, 1.0, -0.3, 0.004, 0.003]
    let reals : List ℝ := [2, 1, -2]
    ((∀ v ∈ values, isFinite v) ∧ (0 : Float) < 0.01 ∧
      (sweep 0.01 (ordered values)).pairs.length = 2 ∧
      (sweep 0.01 (ordered values)).survivors.length = 1) ∧
    (∀ v ∈ reals, isFinite v) ∧ (0 : ℝ) < 1 ∧ (sweep 1 (ordered reals)).pairs.length = 1 := by
  intro values reals
  constructor
  · have finite : ∀ v ∈ values, isFinite v := by decide
    have positive : (0 : Float) < 0.01 := by decide
    obtain ⟨⟨_, _, ⟨_, maximum⟩, size, _⟩, _⟩ := cancelDuals_optimal finite positive
    have two : 2 ≤ (sweep 0.01 (ordered values)).pairs.length :=
      maximum ⟨[(0, 2), (3, 4)], ⟨by decide, by decide⟩, rfl⟩
    have five : values.length = 5 := rfl
    exact ⟨finite, positive, by omega, by omega⟩
  · have finite : ∀ v ∈ reals, isFinite v := fun _ _ => rfl
    have positive : ((0 : Nat) : ℝ) < 1 := by norm_num
    obtain ⟨⟨_, _, ⟨_, maximum⟩, size, _⟩, _⟩ := cancelDuals_optimal finite positive
    have cancels : Cancels (1 : ℝ) 2 (-2) := by
      change |(2 : ℝ) + -2| < 1
      norm_num
    have one : 1 ≤ (sweep 1 (ordered reals)).pairs.length :=
      maximum ⟨[(0, 2)], ⟨by decide, fun p member => List.mem_singleton.mp member ▸ cancels⟩, rfl⟩
    have three : reals.length = 3 := rfl
    exact ⟨finite, by norm_num, by omega⟩

end FormulaLab.Contraction
