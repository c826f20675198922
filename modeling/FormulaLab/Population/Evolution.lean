import FormulaLab.Population.Selector

/-! Evolution: rounds of selection in which candidates marked for mutation are replaced by offspring.
It stops after a round without survivors. -/

namespace FormulaLab

structure Evolution (α : Type) where
  rounds : List (Round α)
  finalPopulation : List (Candidate α)
  best : Option (Candidate α)

/-- Makes an offspring; its id, generation and age are set afterwards. -/
abbrev Mutator (α : Type) := Candidate α → Fresh (Candidate α)

namespace Selector

variable {α : Type} [Scalar α]

/-- One offspring per parent, each with a new id, as members of the round to come. -/
def offspring (mutator : Mutator α) :
    List (Candidate α) → Selector α → Fresh (List (Candidate α) × Selector α)
  | [], selector => pure ([], selector)
  | parent :: rest, selector => do
    let child ← mutator parent
    let child :=
      { child with id := selector.nextId, generation := selector.history.length, age := 0 }
    let (others, selector) ←
      offspring mutator rest { selector with nextId := selector.nextId + 1 }
    return (child :: others, selector)

/-- At most `count` rounds from a population. -/
def evolveRounds (mutator : Mutator α) :
    (count : Nat) → List (Candidate α) → Selector α → Fresh (List (Round α) × Selector α)
  | 0, _, selector => pure ([], selector)
  | count + 1, population, selector => do
    let (round, selector) := selector.select population
    if round.survivors.isEmpty then return ([round], selector)
    else
      let (children, selector) ← offspring mutator round.mutated selector
      let (rounds, selector) ←
        evolveRounds mutator count (round.survivors ++ children) selector
      return (round :: rounds, selector)

def evolve (mutator : Mutator α) (generations : Nat) (population : List (Candidate α))
    (selector : Selector α) : Fresh (Evolution α × Selector α) := do
  let (rounds, selector) ← evolveRounds mutator generations population selector
  let finalPopulation := (rounds.getLast?.map (·.survivors)).getD []
  return (⟨rounds, finalPopulation, Fitness.fittest? finalPopulation⟩, selector)

end Selector
end FormulaLab
