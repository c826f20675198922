import FormulaLab.Proofs.Formula.Arity
import FormulaLab.Proofs.Formula.Likeness
import FormulaLab.Proofs.Population.Judgement
import FormulaLab.Proofs.Scalar.Difference

/-! Division by zero. A divisor that the structural check finds to be the constant zero leaves the formula
without a value, wherever it stands and whatever the variables are, so that the principles, the score and
the selector judge the formula as the check does. -/

namespace FormulaLab

open Scalar (ZeroDistance)

variable {α : Type} [Scalar α]

namespace Formula

variable {f g : Formula α} {env : Environment α} {id : String} {path : List String}

/-- No value is found for the formula, and no candidate made of it is kept. -/
structure Rejected (f : Formula α) : Prop where
  value : ∀ env, f.evaluate env = none
  zeroInvariance : f.principles.zeroInvariance = false
  finiteness : f.principles.finiteness = false
  /-- A selector with the standard constraints, among others, eliminates the candidate. -/
  eliminated : ∀ (selector : Selector α) (complexityLimit depthLimit : Nat) (softPenalty : α)
    (standard : List (Constraint α)) (precision : α) (c : Candidate α),
    Constraint.standard complexityLimit depthLimit softPenalty = .ok standard →
    (∀ constraint ∈ standard, constraint ∈ selector.constraints) →
    c.analysis = f.analyze precision →
    (selector.evaluate c).verdict = .eliminate ∧ (selector.evaluate c).total = 0

/-! Where the check looks. -/

theorem divisionByZero_mem_nodeFaults (reported : Issue.divisionByZero id ∈ f.nodeFaults) :
    f.dividesByZero = true := by
  unfold nodeFaults at reported
  rcases List.mem_append.mp reported with division | constant
  · split at division
    next found => exact found
    next => contradiction
  · split at constant
    · simp at constant
    · contradiction

theorem exists_divides_of_faults (reported : Issue.divisionByZero id ∈ f.faults path) :
    ∃ g ∈ f.nodes, g.dividesByZero = true := by
  induction f generalizing path with
  | node own head children ih =>
    rw [faults] at reported
    split at reported
    · simp at reported
    · rw [faultsAll_eq] at reported
      rw [exists_nodes_node]
      rcases List.mem_append.mp reported with here | below
      · exact .inl (divisionByZero_mem_nodeFaults here)
      · obtain ⟨child, member, found⟩ := List.mem_flatMap.mp below
        exact .inr ⟨child, member, ih child member found⟩

theorem exists_divides (reported : Issue.divisionByZero id ∈ f.structureReport.issues) :
    ∃ g ∈ f.nodes, g.dividesByZero = true := by
  rcases List.mem_append.mp reported with fault | imbalance
  · exact exists_divides_of_faults fault
  · obtain ⟨ratio, -, other⟩ := List.mem_map.mp (Option.toList_map ▸ imbalance)
    cases other

/-! What the evaluator makes of it. -/

variable [ZeroDistance α]

/-- A constant at no distance from zero counts as zero, if it has a value. -/
theorem evaluate_near_zero (near : f.isConstantNear 0 0 = true) {v : α}
    (value : f.evaluate env = some v) : (v == 0) = true := by
  obtain ⟨constant, close⟩ := Bool.and_eq_true_iff.mp near
  split at close
  next x held =>
    rw [evaluate_constant (beq_iff_eq.mp constant) held] at value
    split at value
    · contradiction
    · cases value
      exact ZeroDistance.beq_zero v (of_decide_eq_true close)
  next => contradiction

theorem evaluate_divides (divides : f.dividesByZero = true) : f.evaluate env = none := by
  obtain ⟨named, zero⟩ := Bool.and_eq_true_iff.mp divides
  split at zero
  next first divisor rest children =>
    have meaning : Operator.ofSymbol? "/" = some .divide := rfl
    rw [evaluate_operator meaning named, children]
    simp only [List.map_cons]
    cases first.evaluate env with
    | none => rfl
    | some x =>
      cases value : divisor.evaluate env with
      | none => rfl
      | some v =>
        have nothing := evaluate_near_zero zero value
        cases others : allDefined (rest.map (evaluate env)) with
        | none => simp [allDefined, others]
        | some xs =>
          cases xs with
          | nil => simp [allDefined, others, Operator.apply, nothing]
          | cons => simp [allDefined, others, Operator.apply]
  next => contradiction

/-- Evaluation is strict, so one division by zero is enough. -/
theorem evaluate_of_divides (wellFormed : f.WellFormed) (part : g ∈ f.nodes)
    (divides : g.dividesByZero = true) (env : Environment α) : f.evaluate env = none := by
  rw [← Option.not_isSome_iff_eq_none]
  intro defined
  have value := node_isSome wellFormed defined g part
  rw [evaluate_divides divides] at value
  contradiction

end Formula

/-- A finite value is asked for among the standard constraints. -/
theorem Constraint.finiteValue_mem_standard {complexityLimit depthLimit : Nat} {softPenalty : α}
    {standard : List (Constraint α)}
    (made : Constraint.standard complexityLimit depthLimit softPenalty = .ok standard) :
    hard "finite-value" (fun c => Formula.isFiniteValue c.value) ∈ standard := by
  simp only [Constraint.standard, bind, Except.bind] at made
  split at made
  · contradiction
  · split at made
    · contradiction
    · cases made
      exact List.mem_cons_self

namespace Selector

/-- A candidate without a finite value is eliminated. -/
theorem evaluate_eliminates {selector : Selector α} {c : Candidate α}
    {complexityLimit depthLimit : Nat} {softPenalty : α} {standard : List (Constraint α)}
    (made : Constraint.standard complexityLimit depthLimit softPenalty = .ok standard)
    (among : ∀ constraint ∈ standard, constraint ∈ selector.constraints)
    (infinite : Formula.isFiniteValue c.value = false) :
    (selector.evaluate c).verdict = .eliminate ∧ (selector.evaluate c).total = 0 := by
  have required := among _ (Constraint.finiteValue_mem_standard made)
  obtain ⟨hard, found⟩ :=
    exists_brokenHard (c := c) required rfl (by simp [Constraint.hard, infinite])
  rw [evaluate_of_broken found]
  exact ⟨rfl, rfl⟩

end Selector

namespace Formula

theorem rejected_of_divides [ZeroDistance α] {f g : Formula α} (wellFormed : f.WellFormed)
    (part : g ∈ f.nodes) (divides : g.dividesByZero = true) : f.Rejected := by
  have value := evaluate_of_divides wellFormed part divides
  constructor
  case value => exact value
  case zeroInvariance =>
    change isFiniteValue (f.evaluate f.zeroEnvironment) = false
    rw [value]
    rfl
  case finiteness =>
    change (isFiniteValue (f.evaluate fun _ => none) && _) = false
    rw [value]
    rfl
  case eliminated =>
    intro selector complexityLimit depthLimit softPenalty standard precision c made among analysed
    refine Selector.evaluate_eliminates made among ?_
    rw [Candidate.value, analysed]
    change isFiniteValue (f.evaluate fun _ => none) = false
    rw [value]
    rfl

/-- The principles that a value is needed for fail. -/
theorem Rejected.few {f : Formula α} (rejected : f.Rejected) :
    ∃ holding ≤ 3, f.principles.score = Scalar.ofNat holding / 5 := by
  refine ⟨[f.principles.duality, f.principles.goldenMagnitude, f.principles.constantRatio].countP (·),
    List.countP_le_length, ?_⟩
  change Scalar.ofNat ([f.principles.zeroInvariance, f.principles.duality,
    f.principles.goldenMagnitude, f.principles.constantRatio, f.principles.finiteness].countP (·)) / 5 =
      _
  rw [rejected.zeroInvariance, rejected.finiteness]
  rfl

/-! The score in binary64 arithmetic. -/

/-- Four faults leave nothing of the structural score, and more of them nothing less. -/
theorem cutAtZero_quarters {n : Nat} (four : 4 ≤ n) :
    Scalar.cutAtZero (1 - 0.25 * Scalar.ofNat n : Float) = 0 :=
  if_neg (Binary64.sub_nonpos (by decide +kernel) (Binary64.one_le_quarter four))

theorem verify_le {f : Formula Float} (faulty : f.structureReport.issues ≠ []) {holding : Nat}
    (few : holding ≤ 3) (score : f.principles.score = Scalar.ofNat holding / 5) :
    f.verify ≤ (0.75 + 0.6) / 2 := by
  have bounded : ∀ n < 5, 0 < n → ∀ holding < 4,
      (Scalar.cutAtZero (1 - 0.25 * Scalar.ofNat n) + Scalar.ofNat holding / 5) / 2 ≤
        ((0.75 + 0.6) / 2 : Float) := by decide +kernel
  have some : 0 < f.issues.length := List.length_pos_iff.mpr faulty
  rw [verify, score]
  change (Scalar.cutAtZero (1 - 0.25 * Scalar.ofNat f.issues.length) + _) / 2 ≤ _
  obtain less | many := Nat.lt_or_ge f.issues.length 4
  · exact bounded _ (Nat.lt_succ_of_lt less) some _ (Nat.lt_succ_of_le few)
  · have same : Scalar.cutAtZero (1 - 0.25 * Scalar.ofNat f.issues.length : Float) =
        Scalar.cutAtZero (1 - 0.25 * Scalar.ofNat 4) :=
      (cutAtZero_quarters many).trans (cutAtZero_quarters (Nat.le_refl 4)).symm
    rw [same]
    exact bounded 4 (by decide) (by decide) _ (Nat.lt_succ_of_le few)

/-- The structural check, the evaluator, the principles and the selector agree about a division by zero.
Where one is reported in a formula of complete nodes, the formula has no value, fails the principles that
ask for one, is eliminated, and scores no better than with one fault and three principles. -/
theorem divisionByZero_agreed :
    (∀ {α : Type} [Scalar α] [ZeroDistance α] {f : Formula α} {id : String}, f.WellFormed →
      .divisionByZero id ∈ f.structureReport.issues → f.Rejected) ∧
    ∀ {f : Formula Float} {id : String}, f.WellFormed →
      .divisionByZero id ∈ f.structureReport.issues → f.verify ≤ (0.75 + 0.6) / 2 := by
  constructor
  · intro α _ _ f id wellFormed reported
    obtain ⟨g, part, divides⟩ := exists_divides reported
    exact rejected_of_divides wellFormed part divides
  · intro f id wellFormed reported
    obtain ⟨g, part, divides⟩ := exists_divides reported
    obtain ⟨holding, few, score⟩ := (rejected_of_divides wellFormed part divides).few
    exact verify_le (List.ne_nil_of_mem reported) few score

/-- The sine of one by minus zero, in which an id is met again below. -/
def sineOfQuotient : Formula Float :=
  node "root" ⟨.function, none, some "sin", none⟩
    [node "quotient" ⟨.operator, none, some "/", none⟩
      [node "root" ⟨.constant, some 1, none, none⟩ [],
        node "divisor" ⟨.constant, some (-0), some "zero", none⟩ []]]

theorem divisionByZero_agreed_sine :
    .divisionByZero "quotient" ∈ sineOfQuotient.structureReport.issues ∧
      sineOfQuotient.WellFormed ∧ sineOfQuotient.Rejected ∧
      sineOfQuotient.verify ≤ (0.75 + 0.6) / 2 ∧
      ∃ selector, Selector.standard ⟨20, (1e-10 : Float), 64, 16, 0.1⟩ = .ok selector ∧
        let c := (selector.candidate (sineOfQuotient.analyze 1e-10) 0).1
        (selector.evaluate c).verdict = .eliminate := by
  have faults : sineOfQuotient.faults [] = [.divisionByZero "quotient", .cycle "root"] := rfl
  have reported : .divisionByZero "quotient" ∈ sineOfQuotient.structureReport.issues :=
    List.mem_append_left _ (faults ▸ List.mem_cons_self)
  have wellFormed : sineOfQuotient.WellFormed := by
    simp [WellFormed, sineOfQuotient, Head.Fits, head, children]
  have rejected := divisionByZero_agreed.1 wellFormed reported
  refine ⟨reported, wellFormed, rejected, divisionByZero_agreed.2 wellFormed reported, ?_⟩
  have accepted : (Selector.standard ⟨20, (1e-10 : Float), 64, 16, 0.1⟩).isOk := by decide +kernel
  cases made : Selector.standard ⟨20, (1e-10 : Float), 64, 16, 0.1⟩ with
  | error e =>
    rw [made] at accepted
    contradiction
  | ok selector =>
    obtain ⟨criteria, constraints, -, standard, rfl⟩ := Selector.standard_made made
    exact ⟨_, rfl, (rejected.eliminated _ _ _ _ constraints 1e-10 _ standard
      (fun _ member => member) rfl).1⟩

end Formula
end FormulaLab
