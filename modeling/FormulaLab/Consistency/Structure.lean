import FormulaLab.Decimal.Text
import FormulaLab.Formula.Basic

/-! Structural faults of a formula: ids that repeat on a path from the root, divisors that are the
constant zero, constants without a finite value, and constants of almost only one sign. -/

namespace FormulaLab

inductive Issue (α : Type) where
  | cycle (nodeId : String)
  | divisionByZero (nodeId : String)
  | nonFiniteConstant (nodeId : String)
  | signImbalance (ratio : α)

namespace Issue

variable {α : Type}

def message [NumberText α] : Issue α → String
  | cycle nodeId => "cycle through node " ++ nodeId
  | divisionByZero nodeId => "division by zero at node " ++ nodeId
  | nonFiniteConstant nodeId => "non-finite constant at node " ++ nodeId
  | signImbalance ratio => "sign imbalance " ++ NumberText.places 3 ratio

end Issue

structure StructureReport (α : Type) where
  issues : List (Issue α)
  score : α

namespace Formula

variable {α : Type} [Scalar α]

def dividesByZero (f : Formula α) : Bool :=
  f.isOperator "/" &&
    match f.children with
    | _ :: divisor :: _ => divisor.isConstantNear 0 0
    | _ => false

def isNonFiniteConstant (f : Formula α) : Bool :=
  f.kind == .constant &&
    match f.value with
    | some v => !Scalar.isFinite v
    | none => true

def nodeFaults (f : Formula α) : List (Issue α) :=
  (if f.dividesByZero then [.divisionByZero f.id] else [])
    ++ (if f.isNonFiniteConstant then [.nonFiniteConstant f.id] else [])

mutual

/-- Faults in preorder. `path` holds the ids above the node; nothing is looked for below a node whose
id is among them. -/
def faults (path : List String) : Formula α → List (Issue α)
  | node id head children =>
    if path.contains id then [.cycle id]
    else nodeFaults (node id head children) ++ faultsAll (id :: path) children

def faultsAll (path : List String) : List (Formula α) → List (Issue α)
  | [] => []
  | child :: rest => faults path child ++ faultsAll path rest

end

def finiteConstants (f : Formula α) : List α :=
  (f.constants.filterMap Formula.value).filter Scalar.isFinite

/-- Net share of the constants of one sign, where both signs occur and the share is too large. -/
def signImbalance? (f : Formula α) : Option α :=
  let values := f.finiteConstants
  let positive := Scalar.sum (values.filter fun v => decide (0 < v))
  let negative := Scalar.sum ((values.filter fun v => decide (v < 0)).map Scalar.abs)
  if positive == 0 || negative == 0 then none
  else
    let ratio := Scalar.abs (positive - negative) / (positive + negative)
    if 0.9 < ratio then some ratio else none

/-- All faults, the imbalance of signs last. -/
def issues (f : Formula α) : List (Issue α) :=
  f.faults [] ++ (f.signImbalance?.map Issue.signImbalance).toList

/-- Each fault costs a quarter, down to zero. -/
def structureReport (f : Formula α) : StructureReport α where
  issues := f.issues
  score := Scalar.cutAtZero (1 - 0.25 * Scalar.ofNat f.issues.length)

end Formula
end FormulaLab
