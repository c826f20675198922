import FormulaLab.Engine.State
import FormulaLab.Formula.Leaf
import FormulaLab.Formula.Render

/-! A run: a vector is expanded and resized, its components are combined into formulas which are
chained and reduced, and the formulas evolve as a population. -/

namespace FormulaLab

structure RunOptions where
  /-- Depth of the expansion of each component. -/
  depth : Nat := 3
  mode : SynthesisMode := .add
  generations : Nat := 5

/-- What a run makes of the vector as numbers. -/
structure NumericPhase (α : Type) where
  expansions : List (Expansion α)
  /-- The vector in twice its dimension. -/
  elevated : List α
  /-- The vector in half its dimension, at least one. -/
  reduced : List α

/-- What a run makes of the components as formulas. -/
structure FormulaPhase (α : Type) where
  formulas : List (Formula α)
  /-- Combinations of neighbours, or the only component by itself. -/
  syntheses : List (Analysis α)
  chain : Analysis α
  reductions : List (Reduction α)

structure RunReport (α : Type) where
  input : List α
  options : RunOptions
  numeric : NumericPhase α
  formula : FormulaPhase α
  evolution : Evolution α
  summary : String

namespace Engine

variable {α : Type} [Scalar α]

/-- The numeric phase; expansions are remembered. -/
def numericPhase (engine : Engine α) (vector : List α) (depth : Nat) :
    Except RangeError (NumericPhase α) × Engine α :=
  match engine.expander.extendAll depth vector with
  | (.error e, expander) => (.error e, { engine with expander })
  | (.ok expansions, expander) =>
    let phase := do
      let elevated ← Dimension.elevate vector (vector.length * 2)
      let reduced ← Dimension.reduce vector (max (vector.length / 2) 1)
      return { expansions, elevated, reduced : NumericPhase α }
    (phase, { engine with expander })

def combineNeighbours (mode : SynthesisMode) (precision : α) :
    List (Formula α) → Fresh (List (Analysis α))
  | first :: second :: rest => do
    let combined ← Formula.combine mode first second
    return combined.analyze precision :: (← combineNeighbours mode precision (second :: rest))
  | _ => pure []

/-- Analyses of neighbouring combinations; a single formula stands for itself. -/
def synthesize (mode : SynthesisMode) (precision : α) :
    List (Formula α) → Fresh (List (Analysis α))
  | [only] => pure [only.analyze precision]
  | formulas => combineNeighbours mode precision formulas

def formulaPhase (engine : Engine α) (vector : List α) (mode : SynthesisMode) :
    Fresh (Except SynthesisError (FormulaPhase α)) := do
  let formulas ← vector.mapM Formula.leaf
  let syntheses ← synthesize mode engine.settings.precision formulas
  match Formula.chain formulas with
  | .error e => return .error e
  | .ok chained =>
    let chain := (← chained).analyze engine.settings.precision
    let reductions ← syntheses.mapM fun synthesis => engine.reduce synthesis.formula
    return .ok { formulas, syntheses, chain, reductions }

/-- One candidate per synthesis, in order, with a note of where it came from. -/
def initialPopulation : (index : Nat) → List (Analysis α) → Selector α →
    List (Candidate α) × Selector α
  | _, [], selector => ([], selector)
  | index, synthesis :: rest, selector =>
    let (c, selector) := selector.candidate synthesis (Fitness.initial synthesis)
    let c := (c.withMetadata "source" (.str "synthesis")).withMetadata "index" (.ofNat index)
    let (others, selector) := initialPopulation (index + 1) rest selector
    (c :: others, selector)

/-- The offspring is the leaf of the parent's value times the golden ratio. -/
def goldenMutator (precision : α) : Mutator α := fun parent => do
  let scaled ← Formula.leaf (parent.value.getD 0 * Scalar.golden)
  let analysis := scaled.analyze precision
  let child := parent.withMetadata "parent" (.ofNat parent.id)
  return { child with analysis, fitness := Fitness.initial analysis }

def evolutionPhase (engine : Engine α) (syntheses : List (Analysis α)) (generations : Nat) :
    Fresh (Evolution α × Engine α) := do
  let (population, selector) := initialPopulation 0 syntheses engine.selector
  let (evolution, selector) ←
    selector.evolve (goldenMutator engine.settings.precision) generations population
  return (evolution, { engine with selector })

def summarize [NumberText α] (vector : List α) (options : RunOptions) (numeric : NumericPhase α)
    (formula : FormulaPhase α) (evolution : Evolution α) : String :=
  let steps := (formula.reductions.flatMap (·.steps)).length
  s!"Seed: {numeric.expansions.length} components extended to depth {options.depth}, "
    ++ s!"elevated {vector.length} -> {numeric.elevated.length}, "
    ++ s!"reduced {vector.length} -> {numeric.reduced.length}\n"
    ++ s!"Metabolism: {formula.syntheses.length} syntheses ({options.mode.name}), "
    ++ "chain = " ++ formula.chain.formula.render ++ s!", {steps} rewrite steps\n"
    ++ s!"Selection: {evolution.rounds.length} generations, "
    ++ s!"{evolution.finalPopulation.length} survivors"
    ++ match evolution.best with
      | some best =>
        ", best " ++ best.formula.render ++ " (fitness " ++ NumberText.places 4 best.fitness ++ ")"
      | none => ""

def run [NumberText α] (engine : Engine α) (vector : List α) (options : RunOptions) :
    Fresh (Except (Failure α) (RunReport α) × Engine α) := do
  if vector.isEmpty then return (.error (.range (.emptyVector .run)), engine)
  else
    match engine.numericPhase vector options.depth with
    | (.error e, engine) => return (.error (.range e), engine)
    | (.ok numeric, engine) =>
      match ← engine.formulaPhase vector options.mode with
      | .error e => return (.error (.synthesis e), engine)
      | .ok formula =>
        let (evolution, engine) ← engine.evolutionPhase formula.syntheses options.generations
        let summary := summarize vector options numeric formula evolution
        return (.ok { input := vector, options, numeric, formula, evolution, summary }, engine)

end Engine
end FormulaLab
