import FormulaLab.Formula.Analysis
import FormulaLab.Json.Basic

/-! Candidates: analysed formulas with a lineage, and the statistics of their fitness. -/

namespace FormulaLab

structure Candidate (α : Type) where
  /-- Given out by the selector and never reused. -/
  id : Nat
  analysis : Analysis α
  /-- Free notes under distinct names. -/
  metadata : Json.Members
  /-- Number of rounds on record when the candidate was made. -/
  generation : Nat
  age : Nat
  fitness : α

namespace Candidate

variable {α : Type}

def formula (c : Candidate α) : Formula α := c.analysis.formula

def value (c : Candidate α) : Option α := c.analysis.value

def withMetadata (c : Candidate α) (name : String) (note : Json) : Candidate α :=
  { c with metadata := c.metadata.insert name note }

end Candidate

namespace Fitness

variable {α : Type} [Scalar α]

/-- Fitness of a new formula: its energy per node, counting one node more. -/
def initial (analysis : Analysis α) : α :=
  analysis.energy / (1 + Scalar.ofNat analysis.complexity)

/-- Mean fitness, zero for an empty population. -/
def average (population : List (Candidate α)) : α :=
  if population.isEmpty then 0
  else Scalar.sum (population.map (·.fitness)) / Scalar.ofNat population.length

/-- Standard deviation of the fitness relative to its mean, within the unit interval; zero for fewer
than two candidates and for a mean below the precision. -/
def diversity (precision : α) (population : List (Candidate α)) : α :=
  let mean := average population
  if population.length < 2 then 0
  else if Scalar.abs mean < precision then 0
  else
    let squares := population.map fun c => Scalar.powNat (c.fitness - mean) 2
    let variance := Scalar.sum squares / Scalar.ofNat population.length
    Scalar.clampUnit (Scalar.sqrt variance / Scalar.abs mean)

/-- The last of the candidates with the greatest fitness. -/
def fittest? : List (Candidate α) → Option (Candidate α)
  | [] => none
  | first :: rest => some <| rest.foldl
      (fun best c => if Scalar.totalLt c.fitness best.fitness then best else c) first

end Fitness
end FormulaLab
