import FormulaLab.Formula.Evaluate

/-! Measures of a formula: size, height, value, and two quantities derived from the value. -/

namespace FormulaLab

structure Analysis (α : Type) where
  formula : Formula α
  /-- Node count, function nodes counting twice. -/
  complexity : Nat
  /-- Height of the tree; a leaf has depth 0. -/
  depth : Nat
  /-- Signed strength of the value, within `[-1, 1]`. -/
  balance : α
  /-- Magnitude of the value, weighted by complexity. -/
  energy : α
  value : Option α

namespace Formula

variable {α : Type}

def depth : Formula α → Nat := fold fun _ depths => (depths.map (· + 1)).max?.getD 0

def complexity : Formula α → Nat :=
  fold fun f below => below.foldr (· + ·) (if f.kind = .function then 2 else 1)

variable [Scalar α]

/-- Value relative to its own magnitude, or to the precision where that is larger. -/
def relativeSign (precision v : α) : α :=
  if Scalar.isFinite v then v / Scalar.maximum (Scalar.abs v) precision else Scalar.signum v

/-- Measures of a formula; an undefined value counts as zero. -/
def analyze (precision : α) (f : Formula α) : Analysis α :=
  let value := f.closedValue
  let v := value.getD 0
  { formula := f
    complexity := f.complexity
    depth := f.depth
    balance := Scalar.tanh (relativeSign precision v)
    energy := Scalar.abs v * (1 + Scalar.ofNat f.complexity / 10)
    value }

end Formula
end FormulaLab
