import FormulaLab.Population.Constraint
import FormulaLab.Population.Verdict

/-! The selector: criteria, constraints and the history of rounds. A round evaluates every candidate,
sorts the candidates by verdict and cuts the survivors down to the population limit. -/

namespace FormulaLab

structure SelectionSettings (α : Type) where
  populationLimit : Nat
  precision : α
  complexityLimit : Nat
  depthLimit : Nat
  /-- Penalty of the standard soft constraints. -/
  softPenalty : α

structure Evaluation (α : Type) where
  candidateId : Nat
  scores : List (CriterionScore α)
  /-- Names of the broken constraints that count. -/
  violations : List String
  penalty : α
  total : α
  verdict : Verdict

structure Round (α : Type) where
  /-- Number of rounds on record before this one. -/
  generation : Nat
  candidates : List (Candidate α)
  results : List (Evaluation α)
  survivors : List (Candidate α)
  eliminated : List (Candidate α)
  mutated : List (Candidate α)
  averageFitness : α
  diversity : α

structure Selector (α : Type) where
  settings : SelectionSettings α
  criteria : CriteriaSet α
  constraints : List (Constraint α)
  policy : VerdictPolicy α
  /-- Rounds so far, oldest first. -/
  history : List (Round α)
  nextId : Nat

namespace Selector

variable {α : Type} [Scalar α]

/-- A selector without criteria and constraints. -/
def bare (settings : SelectionSettings α) : Except (SelectionError α) (Selector α) :=
  if settings.populationLimit = 0 then .error .invalidPopulationLimit
  else .ok ⟨settings, .empty, [], .standard, [], 1⟩

/-- A selector with the standard criteria and constraints. -/
def standard (settings : SelectionSettings α) : Except (SelectionError α) (Selector α) := do
  let selector ← bare settings
  let criteria ← selector.criteria.addAll Criterion.standard
  let constraints ←
    Constraint.standard settings.complexityLimit settings.depthLimit settings.softPenalty
  return { selector with criteria, constraints }

def addCriterion (selector : Selector α) (criterion : Criterion α) :
    Except (SelectionError α) (Selector α) := do
  return { selector with criteria := ← selector.criteria.add criterion }

def removeCriterion (selector : Selector α) (name : String) :
    Except (SelectionError α) (Criterion α × Selector α) := do
  let (removed, criteria) ← selector.criteria.remove name
  return (removed, { selector with criteria })

/-- Constraints are kept in order of registration. -/
def addConstraint (selector : Selector α) (constraint : Constraint α) : Selector α :=
  { selector with constraints := selector.constraints ++ [constraint] }

/-- Takes out the first constraint of a name. -/
def removeConstraint (selector : Selector α) (name : String) :
    Except (SelectionError α) (Constraint α × Selector α) :=
  match selector.constraints.find? (·.name == name) with
  | some constraint =>
    .ok (constraint,
      { selector with constraints := selector.constraints.eraseP (·.name == name) })
  | none => .error (.unknownConstraint name)

/-- A new candidate under the next id, belonging to the round to come. -/
def candidate (selector : Selector α) (analysis : Analysis α) (fitness : α) :
    Candidate α × Selector α :=
  ({ id := selector.nextId, analysis, metadata := [], generation := selector.history.length
     age := 0, fitness },
    { selector with nextId := selector.nextId + 1 })

def brokenHard? (selector : Selector α) (c : Candidate α) : Option (Constraint α) :=
  selector.constraints.find? fun constraint => constraint.isHard && !constraint.holds c

def brokenSoft (selector : Selector α) (c : Candidate α) : List (Constraint α) :=
  selector.constraints.filter fun constraint => !constraint.isHard && !constraint.holds c

/-- Judgement of a candidate. A broken hard constraint settles it; otherwise the penalties of the
broken soft ones are taken from the weighted score, down to zero. -/
def evaluate (selector : Selector α) (c : Candidate α) : Evaluation α :=
  match selector.brokenHard? c with
  | some hard =>
    { candidateId := c.id, scores := [], violations := [hard.name], penalty := 0, total := 0
      verdict := .eliminate }
  | none =>
    let scores := selector.criteria.parts c
    let broken := selector.brokenSoft c
    let penalty := Scalar.sum (broken.map (·.penalty))
    let total := Scalar.cutAtZero (CriteriaSet.total scores - penalty)
    { candidateId := c.id, scores, violations := broken.map (·.name), penalty, total
      verdict := selector.policy.verdict total }

/-- What a round makes of a candidate: survivors age and take their score as fitness, suspended
candidates only age. -/
def settled (result : Evaluation α) (c : Candidate α) : Candidate α :=
  match result.verdict with
  | .survive => { c with age := c.age + 1, fitness := result.total }
  | .suspend => { c with age := c.age + 1 }
  | .mutate | .eliminate => c

/-- Candidates with one of the given verdicts, as the round leaves them. -/
def withVerdict (verdicts : List Verdict) (judged : List (Candidate α × Evaluation α)) :
    List (Candidate α) :=
  judged.filterMap fun (c, result) =>
    if result.verdict ∈ verdicts then some (settled result c) else none

/-- The candidates within the limit and those cut off. Only a list over the limit is ordered, by
descending fitness and stably. -/
def cut (limit : Nat) (candidates : List (Candidate α)) : List (Candidate α) × List (Candidate α) :=
  if limit < candidates.length then
    (candidates.mergeSort fun a b => Scalar.totalLe b.fitness a.fitness).splitAt limit
  else (candidates, [])

/-- One round, recorded in the history. -/
def select (selector : Selector α) (candidates : List (Candidate α)) : Round α × Selector α :=
  let results := candidates.map selector.evaluate
  let judged := candidates.zip results
  let (survivors, overflow) :=
    cut selector.settings.populationLimit (withVerdict [.survive, .suspend] judged)
  let round : Round α :=
    { generation := selector.history.length
      candidates
      results
      survivors
      eliminated := withVerdict [.eliminate] judged ++ overflow
      mutated := withVerdict [.mutate] judged
      averageFitness := Fitness.average survivors
      diversity := Fitness.diversity selector.settings.precision survivors }
  (round, { selector with history := selector.history ++ [round] })

def best? (selector : Selector α) : Option (Candidate α) :=
  selector.history.getLast?.bind fun round => Fitness.fittest? round.survivors

/-- Forgets the rounds; ids go on. -/
def clearHistory (selector : Selector α) : Selector α := { selector with history := [] }

end Selector
end FormulaLab
