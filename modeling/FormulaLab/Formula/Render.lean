import FormulaLab.Decimal.Text
import FormulaLab.Formula.Basic

/-! Formulas as text: labels instead of values where there are labels, operators in parentheses. -/

namespace FormulaLab.Formula

variable {α : Type} [NumberText α]

/-- Text of a node from the texts of its children. -/
def renderNode (f : Formula α) (texts : List String) : String :=
  let symbol := f.symbol.getD "?"
  match f.kind with
  | .constant =>
    match f.symbol, f.value with
    | some label, _ => label
    | none, some v => NumberText.plain v
    | none, none => "NaN"
  | .var => symbol
  | .operator =>
    match texts with
    | [operand] => "(" ++ symbol ++ operand ++ ")"
    | [left, right] => "(" ++ left ++ " " ++ symbol ++ " " ++ right ++ ")"
    | _ => symbol ++ "()"
  | .function => symbol ++ "(" ++ texts.headD "" ++ ")"
  | .dual =>
    match texts with
    | [positive, negative] => "⟨" ++ positive ++ " | " ++ negative ++ "⟩"
    | _ => "⟨⟩"

def render : Formula α → String := fold renderNode

end FormulaLab.Formula
