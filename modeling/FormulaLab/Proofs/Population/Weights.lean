import Mathlib
import FormulaLab.Proofs.Population.Criteria

/-! Weights. They follow from the weights that the members of a set were made with, so they do not drift
however the set is used. Without rounding they make up one, and total scores stay within the unit
interval. -/

namespace FormulaLab.CriteriaSet

open Scalar (NonnegativeSums)
open Unrounded (finite)

/-- The share of a weight among real numbers. -/
noncomputable def realShare (requested : List ℝ) (weight : ℝ) : ℝ :=
  if requested.sum = 0 then 1 / requested.length else weight / requested.sum

theorem share_finite {requested : List ℝ} (some : requested ≠ []) (weight : ℝ) :
    share (requested.map finite) (finite weight) = finite (realShare requested weight) := by
  have many : (requested.length : ℝ) ≠ 0 :=
    Nat.cast_ne_zero.mpr (List.length_pos_iff.mpr some).ne'
  rw [share, realShare, Unrounded.sum_finite, List.length_map, Unrounded.zero_eq, Unrounded.one_eq]
  split
  next zero =>
    rw [if_pos (Unrounded.finite_beq.mp zero)]
    exact Unrounded.finite_div many
  next other =>
    have nonzero := fun zero => other (Unrounded.finite_beq.mpr zero)
    rw [if_neg nonzero, Unrounded.finite_div nonzero]

theorem realShare_nonneg {requested : List ℝ} {weight : ℝ} (above : ∀ w ∈ requested, 0 ≤ w)
    (member : weight ∈ requested) : 0 ≤ realShare requested weight := by
  unfold realShare
  split
  · positivity
  · exact div_nonneg (above weight member) (List.sum_nonneg above)

theorem sum_realShare {requested : List ℝ} (some : requested ≠ []) :
    (requested.map (realShare requested)).sum = 1 := by
  have many : (requested.length : ℝ) ≠ 0 :=
    Nat.cast_ne_zero.mpr (List.length_pos_iff.mpr some).ne'
  by_cases zero : requested.sum = 0
  · have equal : realShare requested = fun _ => 1 / (requested.length : ℝ) := by
      funext weight
      exact if_pos zero
    rw [equal, List.map_const', List.sum_replicate, nsmul_eq_mul, mul_one_div_cancel many]
  · have scaled : realShare requested = fun weight => weight * requested.sum⁻¹ := by
      funext weight
      rw [realShare, if_neg zero, div_eq_mul_inv]
    rw [scaled, List.sum_map_mul_right, List.map_id', mul_inv_cancel₀ zero]

theorem sum_realShare_le (requested : List ℝ) :
    (requested.map (realShare requested)).sum ≤ 1 := by
  by_cases none : requested = []
  · simp [none]
  · exact (sum_realShare none).le

/-- A score is a real number in the unit interval, whatever the scorer gives. -/
theorem score_within (criterion : Criterion Unrounded) (c : Candidate Unrounded) :
    ∃ s, criterion.score c = finite s ∧ 0 ≤ s ∧ s ≤ 1 := by
  simp only [Criterion.score]
  split
  · exact ⟨0, Unrounded.zero_eq, le_rfl, zero_le_one⟩
  next number => exact Unrounded.clampUnit_finite (Bool.eq_false_iff.mpr number)

/-- The weights that the members of a set were made with. -/
def requestedValues (set : CriteriaSet Unrounded) : List ℝ := set.items.map (·.requested.value)

namespace Balanced

variable {made : List (Criterion Unrounded)} {set : CriteriaSet Unrounded}

theorem requested_finite (balanced : Balanced made set) {c : Criterion Unrounded}
    (member : c ∈ set.items) : c.requested = finite c.requested.value ∧ 0 ≤ c.requested.value := by
  obtain ⟨above, below⟩ := balanced.within c member
  rw [Unrounded.zero_eq] at above
  rw [Unrounded.one_eq] at below
  obtain ⟨same, positive, _⟩ := Unrounded.eq_finite above below
  exact ⟨same, positive⟩

theorem requestedValues_nonneg (balanced : Balanced made set) :
    ∀ w ∈ requestedValues set, 0 ≤ w := by
  intro w among
  obtain ⟨c, member, rfl⟩ := List.mem_map.mp among
  exact (balanced.requested_finite member).2

theorem weight_eq (balanced : Balanced made set) {c : Criterion Unrounded} (member : c ∈ set.items) :
    c.weight = finite (realShare (requestedValues set) c.requested.value) := by
  have some : requestedValues set ≠ [] := List.ne_nil_of_mem (List.mem_map_of_mem member)
  have requested : set.items.map (·.requested) = (requestedValues set).map finite := by
    rw [requestedValues, List.map_map]
    exact List.map_congr_left fun c member => (balanced.requested_finite member).1
  rw [balanced.weights c member, requested, (balanced.requested_finite member).1]
  exact share_finite some _

theorem totalWeight_eq_one (balanced : Balanced made set) (some : set.items ≠ []) :
    set.totalWeight = 1 := by
  have weights : set.items.map (·.weight) =
      ((requestedValues set).map (realShare (requestedValues set))).map finite := by
    rw [requestedValues, List.map_map, List.map_map]
    exact List.map_congr_left fun c member => balanced.weight_eq member
  rw [totalWeight, weights, Unrounded.sum_finite, sum_realShare, Unrounded.one_eq]
  exact fun none => some (List.map_eq_nil_iff.mp none)

/-- What a criterion contributes is not below zero and not above its weight. -/
theorem part_within (balanced : Balanced made set) (c : Candidate Unrounded)
    {d : Criterion Unrounded} (member : d ∈ set.items) :
    let value := (d.part c).weighted.value
    (d.part c).weighted = finite value ∧ 0 ≤ value ∧
      value ≤ realShare (requestedValues set) d.requested.value := by
  obtain ⟨s, score, above, below⟩ := score_within d c
  have share : 0 ≤ realShare (requestedValues set) d.requested.value :=
    realShare_nonneg balanced.requestedValues_nonneg (List.mem_map_of_mem member)
  have weighted : (d.part c).weighted =
      finite (s * realShare (requestedValues set) d.requested.value) := by
    rw [Criterion.part, score, balanced.weight_eq member]
    exact Unrounded.finite_mul
  rw [weighted]
  exact ⟨rfl, mul_nonneg above share, mul_le_of_le_one_left share below⟩

theorem total_within (balanced : Balanced made set) (c : Candidate Unrounded) :
    0 ≤ total (set.parts c) ∧ total (set.parts c) ≤ 1 := by
  have whole : total (set.parts c) =
      finite (set.items.map fun d => (d.part c).weighted.value).sum := by
    rw [total, parts, List.map_map, ← Unrounded.sum_finite, List.map_map]
    exact congrArg Scalar.sum
      (List.map_congr_left fun d member => (balanced.part_within c member).1)
  have least : 0 ≤ (set.items.map fun d => (d.part c).weighted.value).sum := by
    refine List.sum_nonneg fun v among => ?_
    obtain ⟨d, member, rfl⟩ := List.mem_map.mp among
    exact (balanced.part_within c member).2.1
  have shares := List.sum_le_sum fun d member => (balanced.part_within c member).2.2
  have most := sum_realShare_le (requestedValues set)
  rw [requestedValues, List.map_map] at most
  rw [whole, Unrounded.zero_eq, Unrounded.one_eq]
  exact ⟨Unrounded.finite_le.mpr least, Unrounded.finite_le.mpr (shares.trans most)⟩

end Balanced

/-- Weights never drift. Over every use of a set the names are distinct, every weight is the share of the
one requested for it, and a refused change leaves the set as it was. Without rounding the weights of a set
make up one and total scores lie in the unit interval, whatever the scorers give. -/
theorem weights_never_drift :
    (∀ {α : Type} [Scalar α] [NonnegativeSums α] {made atHand : List (Criterion α)}
      {set : CriteriaSet α}, Session made atHand set →
      Balanced made set ∧ (∀ c ∈ atHand, c.asMade ∈ made) ∧ Answers set) ∧
    ∀ {made atHand : List (Criterion Unrounded)} {set : CriteriaSet Unrounded},
      Session made atHand set → (set.items ≠ [] → set.totalWeight = 1) ∧
        ∀ c, 0 ≤ total (set.parts c) ∧ total (set.parts c) ≤ 1 := by
  constructor
  · intro α _ _ made atHand set session
    obtain ⟨balanced, known⟩ := session.balanced
    exact ⟨balanced, known, balanced.answers⟩
  · intro made atHand set session
    obtain ⟨balanced, _⟩ := session.balanced
    exact ⟨balanced.totalWeight_eq_one, balanced.total_within⟩

/-- The first of two criteria is taken out and added again. Without rounding, one criterion whose scorer
gives what is not a number. -/
theorem weights_never_drift_readded :
    (let a : Criterion Float := .new "a" 0.5 0 fun _ => 1
     let b : Criterion Float := .new "b" 1 0 fun _ => 0
     let both := ((empty.perform (.add a)).2.perform (.add b)).2
     let removed := both.perform (.remove "a")
     ∃ back atHand, removed.1.toOption.getD [] = [back] ∧
       Session [b, a] atHand (removed.2.perform (.add back)).2 ∧
       Balanced [b, a] (removed.2.perform (.add back)).2) ∧
    let strange : Criterion Unrounded := .new "strange" 0 0 fun _ => .notANumber
    let single := (empty.perform (.add strange)).2
    single.items ≠ [] ∧ single.totalWeight = 1 ∧
      ∀ c, 0 ≤ total (single.parts c) ∧ total (single.parts c) ≤ 1 := by
  constructor
  · intro a b both removed
    have made : Session [b, a] [b, a] empty := .make _ _ _ _ (.make _ _ _ _ .start)
    have first := made.call (.add a) (List.forall_mem_singleton.mpr (.tail _ (.head _)))
    have second := first.call (.add b) (List.forall_mem_singleton.mpr
      (List.mem_append_right _ (.head _)))
    have third := second.call (.remove "a") (List.forall_mem_nil _)
    have one : (removed.1.toOption.getD []).length = 1 := by decide +kernel
    obtain ⟨back, given⟩ := List.length_eq_one_iff.mp one
    have fourth := third.call (.add back) (List.forall_mem_singleton.mpr
      (List.mem_append_left _ (given ▸ .head _)))
    exact ⟨back, _, given, fourth, (weights_never_drift.1 fourth).1⟩
  · intro strange single
    have made : Session [strange] [strange] empty := .make _ _ _ _ .start
    have added := made.call (.add strange) (List.forall_mem_singleton.mpr (.head _))
    have zero : (0 : Unrounded) ≤ 0 := by
      rw [Unrounded.zero_eq]
      exact Unrounded.finite_le.mpr le_rfl
    have one : (0 : Unrounded) ≤ 1 := by
      rw [Unrounded.zero_eq, Unrounded.one_eq]
      exact Unrounded.finite_le.mpr zero_le_one
    have accepted : empty.add strange = .ok ⟨normalize [strange]⟩ := if_pos ⟨zero, one⟩
    have some : single.items ≠ [] := by
      simp only [single, perform, accepted]
      exact List.cons_ne_nil _ _
    obtain ⟨whole, within⟩ := weights_never_drift.2 added
    exact ⟨some, whole some, within⟩

end FormulaLab.CriteriaSet
