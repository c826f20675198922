import FormulaLab.Scalar.Basic

/-! Verdicts on total scores: three descending cut-offs, each belonging to the better side. -/

namespace FormulaLab

inductive Verdict where
  | survive
  | suspend
  | mutate
  | eliminate
  deriving DecidableEq, Repr

def Verdict.name : Verdict → String
  | survive => "survive"
  | suspend => "suspend"
  | mutate => "mutate"
  | eliminate => "eliminate"

/-- Lowest scores at which a candidate survives, is suspended, is mutated. -/
structure VerdictPolicy (α : Type) where
  survive : α
  suspend : α
  mutate : α

namespace VerdictPolicy

variable {α : Type} [Scalar α]

def standard : VerdictPolicy α := ⟨0.7, 0.55, 0.4⟩

def verdict (policy : VerdictPolicy α) (score : α) : Verdict :=
  if policy.survive ≤ score then .survive
  else if policy.suspend ≤ score then .suspend
  else if policy.mutate ≤ score then .mutate
  else .eliminate

end VerdictPolicy
end FormulaLab
