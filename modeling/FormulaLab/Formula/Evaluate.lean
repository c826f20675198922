import FormulaLab.Formula.Basic

/-! Evaluation. A formula without a value is undefined: division by zero, logarithm or root outside
its domain, an unbound variable, an unknown symbol, a wrong number of operands or an arithmetic
result that is not a number. An undefined part makes every node above it undefined. -/

namespace FormulaLab

abbrev Environment (α : Type) := String → Option α

/-- Binary operators, two of which also have a unary form. -/
inductive Operator where
  | plus
  | minus
  | times
  | divide
  | power
  | larger
  | smaller
  deriving DecidableEq, Repr

namespace Operator

def ofSymbol? : String → Option Operator
  | "+" => some plus
  | "-" => some minus
  | "*" => some times
  | "/" => some divide
  | "^" => some power
  | "⊕" => some larger
  | "⊖" => some smaller
  | _ => none

variable {α : Type} [Scalar α]

def apply : Operator → List α → Option α
  | plus, [x] => some x
  | minus, [x] => some (-x)
  | plus, [a, b] => some (a + b)
  | minus, [a, b] => some (a - b)
  | times, [a, b] => some (a * b)
  | divide, [a, b] => if b == 0 then none else some (a / b)
  | power, [a, b] => some (Scalar.pow a b)
  | larger, [a, b] => some (Scalar.maximum a b)
  | smaller, [a, b] => some (Scalar.minimum a b)
  | _, _ => none

end Operator

inductive UnaryFunction where
  | sine
  | cosine
  | exponential
  | logarithm
  | squareRoot
  | halfTurnScale
  | goldenScale
  | naturalScale
  deriving DecidableEq, Repr

namespace UnaryFunction

def ofName? : String → Option UnaryFunction
  | "sin" => some sine
  | "cos" => some cosine
  | "exp" => some exponential
  | "log" => some logarithm
  | "sqrt" => some squareRoot
  | "pi_scale" => some halfTurnScale
  | "phi_scale" => some goldenScale
  | "e_scale" => some naturalScale
  | _ => none

variable {α : Type} [Scalar α]

def apply : UnaryFunction → α → Option α
  | sine, x => some (Scalar.sin x)
  | cosine, x => some (Scalar.cos x)
  | exponential, x => some (Scalar.exp x)
  | logarithm, x => if 0 < x then some (Scalar.ln x) else none
  | squareRoot, x => if 0 < x then some (Scalar.sqrt x) else none
  | halfTurnScale, x => some (x * Scalar.halfTurn)
  | goldenScale, x => some (x * Scalar.golden)
  | naturalScale, x => some (x * Scalar.naturalBase)

end UnaryFunction

namespace Formula

variable {α : Type}

/-- The values of a list without undefined members. -/
def allDefined : List (Option α) → Option (List α)
  | [] => some []
  | none :: _ => none
  | some x :: rest => (allDefined rest).map (x :: ·)

variable [Scalar α]

/-- Value of a node from the values of its children. The children of a dual node are added. -/
def combineValues (env : Environment α) (f : Formula α) (values : List (Option α)) : Option α :=
  match f.kind with
  | .constant => f.value
  | .var => f.symbol.bind env
  | .operator => do (← Operator.ofSymbol? (← f.symbol)).apply (← allDefined values)
  | .function =>
    match values with
    | some x :: _ => do (← UnaryFunction.ofName? (← f.symbol)).apply x
    | _ => none
  | .dual =>
    match values with
    | [some positive, some negative] => some (positive + negative)
    | _ => none

/-- Value of a node; a result that is not a number counts as undefined. -/
def evaluateNode (env : Environment α) (f : Formula α) (values : List (Option α)) : Option α :=
  (combineValues env f values).filter (!Scalar.isNaN ·)

def evaluate (env : Environment α) : Formula α → Option α := fold (evaluateNode env)

def closedValue (f : Formula α) : Option α := f.evaluate fun _ => none

theorem evaluate_node (env : Environment α) (id : String) (head : Head α)
    (children : List (Formula α)) :
    evaluate env (node id head children)
      = evaluateNode env (node id head children) (children.map (evaluate env)) :=
  fold_node _ id head children

end Formula
end FormulaLab
