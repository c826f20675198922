import FormulaLab.Population.Criterion

/-! Constraints on candidates. A broken hard constraint eliminates, a broken soft one costs its
penalty. -/

namespace FormulaLab

inductive Severity where
  | hard
  | soft
  deriving DecidableEq, Repr

namespace Severity

def name : Severity → String
  | hard => "hard"
  | soft => "soft"

def title : Severity → String
  | hard => "Hard"
  | soft => "Soft"

def ofName? : String → Option Severity
  | "hard" => some hard
  | "soft" => some soft
  | _ => none

end Severity

structure Constraint (α : Type) where
  name : String
  severity : Severity
  penalty : α
  holds : Candidate α → Bool

namespace Constraint

variable {α : Type} [Scalar α]

/-- A penalty is finite and not negative. -/
def new (name : String) (severity : Severity) (penalty : α) (holds : Candidate α → Bool) :
    Except (SelectionError α) (Constraint α) :=
  if Scalar.isFinite penalty && !decide (penalty < 0) then .ok ⟨name, severity, penalty, holds⟩
  else .error (.invalidPenalty penalty)

/-- A hard constraint has no use for a penalty. -/
def hard (name : String) (holds : Candidate α → Bool) : Constraint α := ⟨name, .hard, 0, holds⟩

omit [Scalar α] in
def isHard (constraint : Constraint α) : Bool := constraint.severity == .hard

omit [Scalar α] in
def describe [NumberText α] (constraint : Constraint α) : String :=
  "ConsistencyConstraint \x7b name: " ++ Text.quoted constraint.name
    ++ ", severity: " ++ constraint.severity.title
    ++ ", penalty: " ++ NumberText.pointed constraint.penalty ++ " \x7d"

/-- A finite value is required; large and deep formulas cost the soft penalty. -/
def standard (complexityLimit depthLimit : Nat) (softPenalty : α) :
    Except (SelectionError α) (List (Constraint α)) := do
  let finiteValue := hard "finite-value" fun c => Formula.isFiniteValue c.value
  let complexity ← new "complexity-limit" .soft softPenalty fun c =>
    decide (c.analysis.complexity ≤ complexityLimit)
  let depth ← new "depth-limit" .soft softPenalty fun c => decide (c.analysis.depth ≤ depthLimit)
  return [finiteValue, complexity, depth]

end Constraint
end FormulaLab
