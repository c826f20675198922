import FormulaLab.Consistency.Principles
import FormulaLab.Decimal.Text
import FormulaLab.Population.Candidate
import FormulaLab.Text.Quoted

/-! Weighted criteria. A set of criteria has distinct names, and its weights are the requested ones
divided by their sum, or equal shares when that sum is zero. -/

namespace FormulaLab

/-- Causes for which the selector refuses a change. -/
inductive SelectionError (α : Type) where
  | invalidWeight (weight : α)
  | invalidPenalty (penalty : α)
  | unknownCriterion (name : String)
  | unknownConstraint (name : String)
  | invalidPopulationLimit

def SelectionError.message {α : Type} [NumberText α] : SelectionError α → String
  | invalidWeight weight =>
    "Criterion weight must be within [0, 1], got " ++ NumberText.plain weight
  | invalidPenalty penalty =>
    "Constraint penalty must be non-negative, got " ++ NumberText.plain penalty
  | unknownCriterion name => "Criterion not registered: " ++ name
  | unknownConstraint name => "Constraint not registered: " ++ name
  | invalidPopulationLimit => "Population limit must be at least 1"

structure Criterion (α : Type) where
  name : String
  weight : α
  /-- Score from which on the criterion counts as passed. -/
  threshold : α
  requested : α
  scorer : Candidate α → α

/-- What one criterion contributes to a total score. -/
structure CriterionScore (α : Type) where
  name : String
  score : α
  weighted : α
  passed : Bool

namespace Criterion

variable {α : Type} [Scalar α]

def new (name : String) (weight threshold : α) (scorer : Candidate α → α) : Criterion α :=
  ⟨name, weight, threshold, weight, scorer⟩

/-- Score within the unit interval; a score that is not a number is zero. -/
def score (criterion : Criterion α) (c : Candidate α) : α :=
  let raw := criterion.scorer c
  if Scalar.isNaN raw then 0 else Scalar.clampUnit raw

/-- Contribution of the criterion to the total score of a candidate. -/
def part (c : Candidate α) (criterion : Criterion α) : CriterionScore α where
  name := criterion.name
  score := criterion.score c
  weighted := criterion.score c * criterion.weight
  passed := decide (criterion.threshold ≤ criterion.score c)

def describe [NumberText α] (criterion : Criterion α) : String :=
  "EvaluationCriterion \x7b name: " ++ Text.quoted criterion.name
    ++ ", weight: " ++ NumberText.pointed criterion.weight
    ++ ", threshold: " ++ NumberText.pointed criterion.threshold ++ " \x7d"

/-- Energy, simplicity, balance and consistency. -/
def standard : List (Criterion α) := [
  new "energy" 0.3 0.5 fun c => c.analysis.energy / (1 + c.analysis.energy),
  new "simplicity" 0.2 0.5 fun c => 1 / (1 + Scalar.ofNat c.analysis.complexity / 10),
  new "balance" 0.2 0.2 fun c => 1 - Scalar.abs c.analysis.balance,
  new "consistency" 0.3 0.75 fun c => c.formula.verify]

end Criterion

structure CriteriaSet (α : Type) where
  items : List (Criterion α)

namespace CriteriaSet

variable {α : Type} [Scalar α]

def empty : CriteriaSet α := ⟨[]⟩

/-- Requested weights over their sum, equal shares when the sum is zero. -/
def normalize (items : List (Criterion α)) : List (Criterion α) :=
  let total := Scalar.sum (items.map (·.requested))
  items.map fun c =>
    { c with weight := if 0 < total then c.requested / total else 1 / Scalar.ofNat items.length }

/-- Adds a criterion at the end; one of the same name is dropped. -/
def add (set : CriteriaSet α) (criterion : Criterion α) :
    Except (SelectionError α) (CriteriaSet α) :=
  if 0 ≤ criterion.requested ∧ criterion.requested ≤ 1 then
    .ok ⟨normalize (set.items.filter (·.name != criterion.name) ++ [criterion])⟩
  else .error (.invalidWeight criterion.requested)

/-- Takes out the criterion of a name and returns it with the weight that it had. -/
def remove (set : CriteriaSet α) (name : String) :
    Except (SelectionError α) (Criterion α × CriteriaSet α) :=
  match set.items.find? (·.name == name) with
  | some criterion => .ok (criterion, ⟨normalize (set.items.eraseP (·.name == name))⟩)
  | none => .error (.unknownCriterion name)

def addAll : List (Criterion α) → CriteriaSet α → Except (SelectionError α) (CriteriaSet α)
  | [], set => .ok set
  | criterion :: rest, set => do addAll rest (← set.add criterion)

def parts (set : CriteriaSet α) (c : Candidate α) : List (CriterionScore α) :=
  set.items.map (Criterion.part c)

def total (parts : List (CriterionScore α)) : α := Scalar.sum (parts.map (·.weighted))

def totalWeight (set : CriteriaSet α) : α := Scalar.sum (set.items.map (·.weight))

end CriteriaSet
end FormulaLab
