import FormulaLab.Scalar.Basic

/-! Contraction of a sequence to one number: to its mean, or to the sum of what is left after
opposite values have cancelled. -/

namespace FormulaLab

/-- A contracted sequence. The loss ratio measures what did not balance. -/
structure Contraction (α : Type) where
  values : List α
  contracted : α
  lossRatio : α

/-- Result of a cancelling sweep: what is left, and the pairs that were cancelled. -/
structure Cancellation (α : Type) where
  survivors : List α
  pairs : List (α × α)

namespace Contraction

variable {α : Type} [Scalar α]

/-- Contraction to the mean. The loss ratio is the share by which the non-negative mass and the
negative mass differ; means and masses below the precision count as zero. -/
def mean (precision : α) (values : List α) : Contraction α :=
  if values = [] then ⟨[], 0, 0⟩
  else
    let mean := Scalar.sum values / Scalar.ofNat values.length
    let positive := Scalar.sum (values.filter fun v => decide (0 ≤ v))
    let negative := Scalar.sum ((values.filter fun v => decide (v < 0)).map Scalar.abs)
    let magnitude := positive + negative
    { values
      contracted := if Scalar.abs mean < precision then 0 else mean
      lossRatio :=
        if magnitude < precision then 0 else Scalar.abs (positive - negative) / magnitude }

/-- Sweep over an ordered window. Its two ends cancel if their sum is below the precision; otherwise
the end of larger magnitude, the upper one if neither is larger, survives and leaves the window. -/
def sweep (precision : α) : (window : List α) → Cancellation α
  | [] => ⟨[], []⟩
  | [last] => ⟨[last], []⟩
  | low :: next :: rest =>
    let high := (next :: rest).getLast (List.cons_ne_nil next rest)
    let middle := (next :: rest).dropLast
    if Scalar.abs (low + high) < precision then
      let swept := sweep precision middle
      { swept with pairs := (low, high) :: swept.pairs }
    else if Scalar.abs high < Scalar.abs low then
      let swept := sweep precision (next :: rest)
      { swept with survivors := low :: swept.survivors }
    else
      let swept := sweep precision (low :: middle)
      { swept with survivors := high :: swept.survivors }
termination_by window => window.length
decreasing_by
  all_goals simp only [List.length_dropLast, List.length_cons]
  all_goals omega

def ordered (values : List α) : List α := values.mergeSort Scalar.totalLe

/-- Contraction to the sum of the values that survive cancellation. The loss ratio is the share of
survivors. -/
def cancelDuals (precision : α) (values : List α) : Contraction α :=
  if values = [] then ⟨[], 0, 0⟩
  else
    let survivors := (sweep precision (ordered values)).survivors
    { values
      contracted := Scalar.sum survivors
      lossRatio := Scalar.ofNat survivors.length / Scalar.ofNat values.length }

end Contraction
end FormulaLab
