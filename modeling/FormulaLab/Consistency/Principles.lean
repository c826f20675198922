import FormulaLab.Consistency.Structure
import FormulaLab.Formula.Evaluate

/-! The five principles that a formula is held against, and the overall score of a formula. -/

namespace FormulaLab

structure Principles (α : Type) where
  /-- With every variable at zero the value is finite. -/
  zeroInvariance : Bool
  /-- Every dual carries a pair with a non-negative and a non-positive side. -/
  duality : Bool
  /-- The magnitude of the value is at most the twelfth power of the golden ratio. -/
  goldenMagnitude : Bool
  /-- Magnitudes of non-zero constants differ at most by the fourth power of the half turn. -/
  constantRatio : Bool
  /-- The closed value and every constant are finite. -/
  finiteness : Bool
  score : α

namespace Formula

variable {α : Type} [Scalar α]

def zeroEnvironment (f : Formula α) : Environment α :=
  fun name => if name ∈ f.variableNames then some 0 else none

def isFiniteValue (value : Option α) : Bool := value.any Scalar.isFinite

/-- Whether the node is no dual, or one whose pair has the right signs. -/
def companionsAgree (f : Formula α) : Bool :=
  match f.kind, f.companions with
  | .dual, some pair => decide (0 ≤ pair.positive) && decide (pair.negative ≤ 0)
  | .dual, none => false
  | _, _ => true

def dualsHold : Formula α → Bool := fold fun f below => f.companionsAgree && below.all (·)

/-- Whether the largest magnitude of a non-zero constant is close enough to the smallest one. -/
def constantRatioHolds (f : Formula α) : Bool :=
  match (f.finiteConstants.filter fun v => !(v == 0)).map Scalar.abs with
  | first :: second :: rest =>
    let largest := (second :: rest).foldl Scalar.maximum first
    let smallest := (second :: rest).foldl Scalar.minimum first
    decide (largest / smallest ≤ Scalar.powNat Scalar.halfTurn 4)
  | _ => true

def principles (f : Formula α) : Principles α :=
  let value := f.closedValue
  let zeroInvariance := isFiniteValue (f.evaluate f.zeroEnvironment)
  let duality := f.dualsHold
  let goldenMagnitude := decide (Scalar.abs (value.getD 0) ≤ Scalar.powNat Scalar.golden 12)
  let constantRatio := f.constantRatioHolds
  let finiteness := isFiniteValue value && f.constants.all fun c => isFiniteValue c.value
  let holding :=
    [zeroInvariance, duality, goldenMagnitude, constantRatio, finiteness].countP (·)
  { zeroInvariance, duality, goldenMagnitude, constantRatio, finiteness
    score := Scalar.ofNat holding / 5 }

def verify (f : Formula α) : α := (f.structureReport.score + f.principles.score) / 2

end Formula
end FormulaLab
