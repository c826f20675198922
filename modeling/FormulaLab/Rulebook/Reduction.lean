import FormulaLab.Formula.Analysis
import FormulaLab.Rulebook.Basic

/-! Reduction. A pass works from the leaves up and tries the rules once at each node. A reduction
repeats passes until nothing fires or a bound is reached, and records every pass. -/

namespace FormulaLab

structure Pass (α : Type) where
  output : Formula α
  /-- Names of the rules that fired, children before parents. -/
  fired : List String

structure ReductionStep (α : Type) where
  step : Nat
  /-- The last rule that fired. -/
  rule : String
  applications : Nat
  /-- Change of the closed value, an undefined value counting as zero. -/
  delta : α

structure Reduction (α : Type) where
  input : Formula α
  output : Formula α
  steps : List (ReductionStep α)
  /-- Whether no rule applies to any node of the output. -/
  converged : Bool
  analysis : Analysis α

namespace Rulebook

variable {α : Type}

/-- Work of a pass at one node, after its children. The node is rebuilt only if something fired
below it. -/
def passNode (book : Rulebook α) (f : Formula α) (children : List (Fresh (Pass α))) :
    Fresh (Pass α) := do
  let passes ← children.mapM fun child => child
  let below := passes.flatMap (·.fired)
  let current ← if below = [] then pure f else f.rebuild (passes.map (·.output))
  match book.firstMatch? current with
  | some rule => return ⟨← rule.transform current, below ++ [rule.name]⟩
  | none => return ⟨current, below⟩

def applyOnce (book : Rulebook α) : Formula α → Fresh (Pass α) := Formula.fold book.passNode

variable [Scalar α]

def recordStep (step : Nat) (before : Formula α) (pass : Pass α) : ReductionStep α where
  step
  rule := pass.fired.getLastD ""
  applications := pass.fired.length
  delta := Scalar.abs (pass.output.closedValue.getD 0 - before.closedValue.getD 0)

/-- At most `bound` further passes after `done` recorded ones: the last formula, the records, and
whether nothing fires on it. -/
def iterate (book : Rulebook α) : (bound done : Nat) → Formula α →
    Fresh (Formula α × List (ReductionStep α) × Bool)
  | 0, _, f => do
    let pass ← book.applyOnce f
    return (f, [], pass.fired.isEmpty)
  | bound + 1, done, f => do
    let pass ← book.applyOnce f
    if pass.fired.isEmpty then return (f, [], true)
    else
      let (output, steps, converged) ← book.iterate bound (done + 1) pass.output
      return (output, recordStep (done + 1) f pass :: steps, converged)

/-- Reduction of a formula by at most `bound` passes. -/
def reduce (book : Rulebook α) (precision : α) (bound : Nat) (f : Formula α) :
    Fresh (Reduction α) := do
  let (output, steps, converged) ← book.iterate bound 0 f
  return { input := f, output, steps, converged, analysis := output.analyze precision }

end Rulebook
end FormulaLab
