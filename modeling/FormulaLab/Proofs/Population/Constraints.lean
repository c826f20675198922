import FormulaLab.Proofs.Population.Judgement
import FormulaLab.Proofs.Scalar.Difference

/-! Constraints never help. A selector with one more constraint gives no candidate a higher score or a
better verdict, and a broken hard constraint outweighs all that is broken besides. -/

namespace FormulaLab

variable {α : Type} [Scalar α]

/-- What can be registered: a penalty is finite and not negative. -/
structure Constraint.Valid (constraint : Constraint α) : Prop where
  finite : Scalar.isFinite constraint.penalty
  notNegative : ¬constraint.penalty < 0

/-- From the worst verdict to the best. -/
def Verdict.rank : Verdict → Nat
  | eliminate => 0
  | mutate => 1
  | suspend => 2
  | survive => 3

/-- The evaluation has neither a higher score nor a better verdict than the other. -/
structure Evaluation.AtMost (result other : Evaluation α) : Prop where
  total : result.total ≤ other.total
  verdict : result.verdict.rank ≤ other.verdict.rank

/-- What an evaluation tells of the constraints that a candidate breaks. -/
structure Evaluation.Reports (result : Evaluation α) (selector : Selector α) (c : Candidate α) :
    Prop where
  /-- Of the hard ones that are broken the first is named, and nothing else counts. -/
  hard : (∃ k ∈ selector.constraints, k.isHard ∧ ¬k.holds c) →
    ∃ before first behind, selector.constraints = before ++ first :: behind ∧
      (∀ k ∈ before, k.isHard → k.holds c) ∧ first.isHard ∧ ¬first.holds c ∧
      result.violations = [first.name] ∧ result.total = 0 ∧ result.scores = [] ∧
      result.verdict = .eliminate
  /-- If there are none, those that are broken are named in the order of registration. -/
  soft : (∀ k ∈ selector.constraints, k.isHard → k.holds c) →
    result.violations = (selector.constraints.filter fun k => !k.isHard && !k.holds c).map (·.name)
  /-- Hard ones that hold might as well not be registered. -/
  inert : ∀ before hard behind, selector.constraints = before ++ hard :: behind → hard.isHard →
    hard.holds c → result = { selector with constraints := before ++ behind }.evaluate c

namespace Constraint

variable {constraint : Constraint α}

theorem new_valid {name : String} {severity : Severity} {penalty : α} {holds : Candidate α → Bool}
    (made : new name severity penalty holds = .ok constraint) : constraint.Valid := by
  unfold new at made
  split at made
  next checked =>
    cases made
    rw [Bool.and_eq_true, Bool.not_eq_true', decide_eq_false_iff_not] at checked
    exact ⟨checked.1, checked.2⟩
  next => contradiction

variable [Scalar.Ordered α] [Scalar.MonotoneDifference α]

theorem hard_valid (name : String) (holds : Candidate α → Bool) : (hard name holds).Valid where
  finite := Scalar.MonotoneDifference.isFinite_zero
  notNegative less := Scalar.not_le_of_lt less Scalar.zero_le_zero

theorem Valid.penalty_nonneg (valid : constraint.Valid) : 0 ≤ constraint.penalty := by
  have zero : Scalar.isFinite (0 : α) := Scalar.MonotoneDifference.isFinite_zero
  refine Classical.byContradiction fun notAbove => valid.notNegative ?_
  exact Scalar.lt_of_not_le valid.finite zero notAbove

end Constraint

/-- The cut-offs are inclusive, whatever their order. -/
theorem VerdictPolicy.verdict_mono [Scalar.Ordered α] (policy : VerdictPolicy α) {a b : α}
    (less : a ≤ b) : (policy.verdict a).rank ≤ (policy.verdict b).rank := by
  have up {bound : α} (reached : bound ≤ a) : bound ≤ b := Scalar.Ordered.le_trans _ _ _ reached less
  unfold verdict
  by_cases survives : policy.survive ≤ a
  · rw [if_pos survives, if_pos (up survives)]
  by_cases suspended : policy.suspend ≤ a
  · rw [if_neg survives, if_pos suspended, if_pos (up suspended)]
    split <;> decide
  by_cases mutated : policy.mutate ≤ a
  · rw [if_neg survives, if_neg suspended, if_pos mutated, if_pos (up mutated)]
    split
    next => decide
    next => split <;> decide
  · rw [if_neg survives, if_neg suspended, if_neg mutated]
    exact Nat.zero_le _

namespace Selector

variable {selector : Selector α} {extra : Constraint α} {c : Candidate α}

omit [Scalar α] in
theorem brokenHard?_addConstraint (selector : Selector α) (extra : Constraint α) (c : Candidate α) :
    (selector.addConstraint extra).brokenHard? c =
      (selector.brokenHard? c).or (if extra.isHard && !extra.holds c then some extra else none) := by
  rw [brokenHard?, addConstraint, List.find?_append, List.find?_singleton]
  rfl

omit [Scalar α] in
theorem brokenSoft_addConstraint (selector : Selector α) (extra : Constraint α) (c : Candidate α) :
    (selector.addConstraint extra).brokenSoft c =
      selector.brokenSoft c ++ [extra].filter fun k => !k.isHard && !k.holds c :=
  List.filter_append ..

/-- Total of the penalties of the soft constraints that a candidate breaks. -/
def brokenCost (selector : Selector α) (c : Candidate α) : α :=
  Scalar.sum ((selector.brokenSoft c).map (·.penalty))

/-- Weighted score of a candidate less the penalties, down to zero. -/
def remainder (selector : Selector α) (c : Candidate α) : α :=
  Scalar.cutAtZero (CriteriaSet.total (selector.criteria.parts c) - selector.brokenCost c)

theorem evaluate_of_unbroken (unbroken : selector.brokenHard? c = none) :
    selector.evaluate c = ⟨c.id, selector.criteria.parts c, (selector.brokenSoft c).map (·.name),
      selector.brokenCost c, selector.remainder c, selector.policy.verdict (selector.remainder c)⟩ := by
  rw [evaluate, unbroken]
  rfl

theorem evaluate_reports (selector : Selector α) (c : Candidate α) :
    (selector.evaluate c).Reports selector c where
  hard := by
    intro ⟨k, member, isHard, broken⟩
    obtain ⟨first, found⟩ := exists_brokenHard member isHard broken
    obtain ⟨breaks, before, behind, order, holding⟩ := List.find?_eq_some_iff_append.mp found
    rw [Bool.and_eq_true, Bool.not_eq_true'] at breaks
    rw [evaluate_of_broken found]
    refine ⟨before, first, behind, order, ?_, breaks.1, by simp [breaks.2], rfl, rfl, rfl, rfl⟩
    intro k member isHard
    simpa [isHard] using holding k member
  soft := by
    intro holding
    have unbroken : selector.brokenHard? c = none := by
      refine List.find?_eq_none.mpr fun k member => ?_
      have holds := holding k member
      simpa using holds
    rw [evaluate_of_unbroken unbroken]
    rfl
  inert := by
    intro before hard behind order isHard holds
    have same : { selector with constraints := before ++ behind }.brokenHard? c =
        selector.brokenHard? c := by
      simp [brokenHard?, order, List.find?_append, isHard, holds]
    have alike : { selector with constraints := before ++ behind }.brokenSoft c =
        selector.brokenSoft c := by
      simp [brokenSoft, order, isHard]
    rw [evaluate, evaluate, same, alike]

variable [Scalar.Ordered α] [Scalar.NonnegativeSums α] [Scalar.MonotoneDifference α]

theorem brokenCost_addConstraint (c : Candidate α) (valid : ∀ k ∈ selector.constraints, k.Valid)
    (also : extra.Valid) : 0 ≤ selector.brokenCost c ∧
      selector.brokenCost c ≤ (selector.addConstraint extra).brokenCost c := by
  have penalties {constraints : List (Constraint α)} (valid : ∀ k ∈ constraints, k.Valid) :
      ∀ p ∈ (constraints.filter fun k => !k.isHard && !k.holds c).map (·.penalty), 0 ≤ p := by
    intro p member
    obtain ⟨k, among, rfl⟩ := List.mem_map.mp member
    exact (valid k (List.mem_of_mem_filter among)).penalty_nonneg
  have old := penalties valid
  refine ⟨Scalar.sum_nonneg old, ?_⟩
  rw [brokenCost, brokenCost, brokenSoft_addConstraint, List.map_append]
  exact Scalar.sum_le_sum_append old (penalties (by simpa using also))

/-- One more constraint leaves the score and the verdict of a candidate where they are or lowers them. -/
theorem evaluate_addConstraint (valid : ∀ k ∈ selector.constraints, k.Valid) (also : extra.Valid) :
    ((selector.addConstraint extra).evaluate c).AtMost (selector.evaluate c) := by
  have extended := brokenHard?_addConstraint selector extra c
  cases broken : selector.brokenHard? c with
  | some hard =>
    rw [broken, Option.some_or] at extended
    rw [evaluate_of_broken broken, evaluate_of_broken extended]
    exact ⟨Scalar.zero_le_zero, Nat.le_refl _⟩
  | none =>
    rw [broken, Option.none_or] at extended
    rw [evaluate_of_unbroken broken]
    split at extended
    next =>
      rw [evaluate_of_broken extended]
      exact ⟨Scalar.cutAtZero_nonneg _, Nat.zero_le _⟩
    next =>
      obtain ⟨above, more⟩ := brokenCost_addConstraint c valid also
      have lower : (selector.addConstraint extra).remainder c ≤ selector.remainder c :=
        Scalar.cutAtZero_sub_le above more
      rw [evaluate_of_unbroken extended]
      exact ⟨lower, selector.policy.verdict_mono lower⟩

/-- Constraints never help a candidate, and the hard ones dominate. -/
theorem constraints_never_help (selector : Selector α) (valid : ∀ k ∈ selector.constraints, k.Valid)
    (c : Candidate α) :
    (∀ extra : Constraint α, extra.Valid →
      ((selector.addConstraint extra).evaluate c).AtMost (selector.evaluate c)) ∧
      (selector.evaluate c).Reports selector c :=
  ⟨fun _ also => evaluate_addConstraint valid also, evaluate_reports selector c⟩

/-- A selector that scores every candidate alike, with a soft constraint that single nodes break and a
hard one. -/
def lenient : Selector Float where
  settings := ⟨8, 0.001, 50, 20, 0.1⟩
  criteria := ⟨[Criterion.new "constant" 1 0.5 fun _ => 0.8]⟩
  constraints := [⟨"composed", .soft, 0.05, fun c => decide (1 < c.analysis.complexity)⟩,
    Constraint.hard "finite-value" fun c => Formula.isFiniteValue c.value]
  policy := .standard
  history := []
  nextId := 1

/-- A soft constraint that single nodes break as well. -/
def nested : Constraint Float := ⟨"nested", .soft, 0.1, fun c => decide (1 < c.analysis.depth)⟩

/-- A candidate of a single node. -/
def single : Candidate Float where
  id := 1
  analysis := Formula.analyze 0.001 (.node "1" ⟨.constant, some 1, none, none⟩ [])
  metadata := []
  generation := 0
  age := 0
  fitness := 0.5

theorem constraints_never_help_single :
    let before := lenient.evaluate single
    let after := (lenient.addConstraint nested).evaluate single
    after.AtMost before ∧ before.Reports lenient single ∧ before.violations = ["composed"] ∧
      before.verdict = .survive ∧ after.verdict = .suspend := by
  have composed : Constraint.Valid
      (⟨"composed", .soft, 0.05, fun c => decide (1 < c.analysis.complexity)⟩ : Constraint Float) :=
    Constraint.new_valid (if_pos (by decide +kernel))
  have valid : ∀ k ∈ lenient.constraints, k.Valid :=
    List.forall_mem_cons.mpr ⟨composed, List.forall_mem_singleton.mpr (Constraint.hard_valid _ _)⟩
  have also : nested.Valid := Constraint.new_valid (if_pos (by decide +kernel))
  obtain ⟨atMost, reports⟩ := constraints_never_help lenient valid single
  exact ⟨atMost nested also, reports, by decide +kernel, by decide +kernel, by decide +kernel⟩

end Selector
end FormulaLab
