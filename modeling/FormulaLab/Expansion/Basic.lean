import FormulaLab.Formula.Basic

/-! Expansion of a number into its sequence of companions. Zero unfolds into pairs of opposite terms
around itself; any other origin unfolds into damped powers of the golden ratio, every term but the
first with its opposite. -/

namespace FormulaLab

/-- Settings of the operations on numbers and vectors. -/
structure NumericSettings (α : Type) where
  precision : α
  maxDepth : Nat
  /-- Fixed points closer than this in every component count as one. -/
  fixedPointTolerance : α
  fixedPointIterations : Nat

/-- Operations that refuse some vectors. -/
inductive VectorOperation where
  | elevate
  | reduce
  | run
  deriving DecidableEq, Repr

def VectorOperation.name : VectorOperation → String
  | elevate => "elevate"
  | reduce => "reduce"
  | run => "run"

/-- A depth or a dimension outside the permitted range. -/
inductive RangeError where
  | depthExceeded (depth max : Nat)
  | invalidDimension (operation : VectorOperation) (source target : Nat)
  | emptyVector (operation : VectorOperation)
  deriving DecidableEq, Repr

def RangeError.message : RangeError → String
  | depthExceeded depth max => s!"Extension depth {depth} exceeds maximum {max}"
  | invalidDimension operation source target =>
    s!"Invalid dimension for {operation.name}: {source} -> {target}"
  | emptyVector operation => s!"Cannot {operation.name} an empty vector"

/-- The sequence that an origin unfolds into. -/
structure Expansion (α : Type) where
  origin : α
  depth : Nat
  terms : List α
  companions : Companions α

namespace Expansion

variable {α : Type} [Scalar α]

/-- Opposite pairs at the precision times growing powers of the golden ratio, then zero. -/
def zeroTerms (precision : α) (depth : Nat) : List α :=
  ((List.range depth).flatMap fun k =>
    let term := precision * Scalar.powNat Scalar.golden (k + 1)
    [term, -term]) ++ [0]

/-- Term of level `k`: grown by the golden ratio, damped by the base of natural growth. -/
def scaledTerm (origin : α) (k : Nat) : α :=
  origin * Scalar.powNat Scalar.golden k / Scalar.exp (Scalar.ofNat (k + 1))

/-- The damped terms, each but the first followed by its opposite. -/
def scaledTerms (origin : α) (depth : Nat) : List α :=
  (List.range depth).flatMap fun k =>
    let term := scaledTerm origin k
    if k = 0 then [term] else [term, -term]

def termsOf (precision origin : α) (depth : Nat) : List α :=
  if origin == 0 then zeroTerms precision depth else scaledTerms origin depth

/-- Expansion of an origin without any memory of earlier ones. -/
def compute (precision origin : α) (depth : Nat) : Expansion α where
  origin
  depth
  terms := termsOf precision origin depth
  companions := .symmetric origin

end Expansion
end FormulaLab
