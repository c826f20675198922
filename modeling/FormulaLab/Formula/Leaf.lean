import FormulaLab.Constant
import FormulaLab.Formula.Basic

/-! Leaves for raw numbers. -/

namespace FormulaLab.Formula

/-- A constant that is shown under its symbol when it is recognised as a named one. -/
def leaf {α : Type} [Scalar α] (v : α) : Fresh (Formula α) :=
  match Constant.recognize? v Constant.recognitionTolerance with
  | some known => labeledConstant v known.symbol
  | none => constant v

end FormulaLab.Formula
