import FormulaLab.Scalar.Basic

/-! The table of named constants. It is fixed, its ids are distinct, and three of its entries are
recognised when their value turns up in raw numeric input. -/

namespace FormulaLab

structure Constant (α : Type) where
  id : String
  symbol : String
  value : α
  /-- What the constant stands for. -/
  domain : String
  /-- How it acts under expansion. -/
  expansion : String
  /-- How it acts under contraction. -/
  contraction : String
  /-- Whether raw numbers equal to it are shown under its symbol. -/
  recognizable : Bool

namespace Constant

variable {α : Type} [Scalar α]

def all : List (Constant α) := [
  { id := "zero", symbol := "0", value := 0
    domain := "origin"
    expansion := "unfolds into symmetric ±ε·φ^k pairs around the origin"
    contraction := "every balanced sequence contracts back to it"
    recognizable := false },
  { id := "phi", symbol := "φ", value := Scalar.golden
    domain := "spiral growth"
    expansion := "each level grows by a factor of φ"
    contraction := "φ^2 folds back into φ + 1"
    recognizable := true },
  { id := "pi", symbol := "π", value := Scalar.halfTurn
    domain := "rotation"
    expansion := "scales a formula onto the half turn"
    contraction := "periodic terms cancel over a full turn"
    recognizable := true },
  { id := "e", symbol := "e", value := Scalar.naturalBase
    domain := "natural growth"
    expansion := "continuous compounding of the origin"
    contraction := "each level is damped by a factor of e"
    recognizable := true },
  { id := "pi_ext", symbol := "π_ext", value := Scalar.fullTurn
    domain := "dimensional rotation"
    expansion := "phase divisor for components added by elevation"
    contraction := "block averaging discards the added phase"
    recognizable := false },
  { id := "sqrt2", symbol := "√2", value := 1.4142135623730951
    domain := "diagonal"
    expansion := "doubles area per level"
    contraction := "halves area per level"
    recognizable := false }]

def lookup? (id : String) : Option (Constant α) := all.find? (·.id == id)

def lookupSymbol? (symbol : String) : Option (Constant α) := all.find? (·.symbol == symbol)

/-- First recognisable constant within `tolerance` of a value. -/
def recognize? (value tolerance : α) : Option (Constant α) :=
  all.find? fun c => c.recognizable && decide (Scalar.abs (c.value - value) ≤ tolerance)

def recognitionTolerance : α := 1e-10

end Constant
end FormulaLab
