import FormulaLab.Rulebook.Basic

/-! The standard rules: folding of constants, neutral elements, cancelling duals and the square of
the golden ratio. -/

namespace FormulaLab.Rule

variable {α : Type} [Scalar α]

/-- Values of the two operands when both are constants with a value. -/
def constantOperands? (f : Formula α) : Option (α × α) :=
  match f.children with
  | [a, b] =>
    if a.kind = .constant ∧ b.kind = .constant then
      match a.value, b.value with
      | some x, some y => some (x, y)
      | _, _ => none
    else none
  | _ => none

/-- The other operand of a node of which one operand is the constant `neutral`. -/
def otherOperand? (neutral precision : α) (f : Formula α) : Option (Formula α) :=
  match f.children with
  | [a, b] =>
    if a.isConstantNear neutral precision then some b
    else if b.isConstantNear neutral precision then some a
    else none
  | _ => none

/-- Folds an operator over two constants into one constant. -/
def fold (name op : String) (combine : α → α → α) : Rule α where
  name
  priority := 100
  reversible := false
  pattern f := f.isOperator op && (constantOperands? f).isSome
  transform f :=
    match constantOperands? f with
    | some (x, y) => Formula.constant (combine x y)
    | none => pure f

/-- Drops an operand that is neutral for the operator. -/
def identity (name op : String) (neutral precision : α) : Rule α where
  name
  priority := 90
  reversible := true
  pattern f := f.isOperator op && (otherOperand? neutral precision f).isSome
  transform f := pure ((otherOperand? neutral precision f).getD f)

/-- Whether the two parts of a node have closed values that cancel within the precision. -/
def partsCancel (precision : α) (f : Formula α) : Bool :=
  match f.children with
  | [positive, negative] =>
    match positive.closedValue, negative.closedValue with
    | some p, some n => decide (Scalar.abs (p + n) < precision)
    | _, _ => false
  | _ => false

/-- A dual whose parts cancel is zero. -/
def dualCancel (precision : α) : Rule α where
  name := "dual-cancel"
  priority := 80
  reversible := false
  pattern f := f.kind == .dual && partsCancel precision f
  transform _ := Formula.constant 0

/-- How far a constant may lie from the golden ratio and still count as it. -/
def goldenTolerance : α := 1e-9

def isGoldenSquare (precision : α) (f : Formula α) : Bool :=
  f.isOperator "^" &&
    match f.children with
    | [base, exponent] =>
      base.isConstantNear Scalar.golden goldenTolerance && exponent.isConstantNear 2 precision
    | _ => false

/-- The square of the golden ratio is the golden ratio plus one. -/
def goldenSquare (precision : α) : Rule α where
  name := "golden-square"
  priority := 70
  reversible := true
  pattern := isGoldenSquare precision
  transform _ := do
    Formula.binary "+" (← Formula.labeledConstant Scalar.golden "φ") (← Formula.constant 1)

/-- The standard rules, highest priority first. -/
def standard (precision : α) : List (Rule α) := [
  fold "constant-fold-add" "+" (· + ·),
  fold "constant-fold-mul" "*" (· * ·),
  identity "identity-add-zero" "+" 0 precision,
  identity "identity-mul-one" "*" 1 precision,
  dualCancel precision,
  goldenSquare precision]

end FormulaLab.Rule

namespace FormulaLab.Rulebook

def standard {α : Type} [Scalar α] (precision : α) : Rulebook α := ofList (Rule.standard precision)

end FormulaLab.Rulebook
