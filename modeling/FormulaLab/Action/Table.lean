import FormulaLab.Action.Arguments

/-! The table of actions: their names, descriptions and required arguments. -/

namespace FormulaLab

inductive Action where
  | extend
  | extendRecursive
  | contract
  | cancelDuals
  | elevate
  | reduce
  | evaluateConstants
  | synthesize
  | verify
  | run
  | reset
  | listConstants
  deriving DecidableEq, Repr

namespace Action

def all : List Action :=
  [extend, extendRecursive, contract, cancelDuals, elevate, reduce, evaluateConstants, synthesize,
    verify, run, reset, listConstants]

def name : Action → String
  | extend => "seed.extend"
  | extendRecursive => "seed.extend_recursive"
  | contract => "seed.contract"
  | cancelDuals => "seed.cancel_duals"
  | elevate => "seed.elevate"
  | reduce => "seed.reduce"
  | evaluateConstants => "metabolism.evaluate_constants"
  | synthesize => "metabolism.synthesize"
  | verify => "selection.verify"
  | run => "engine.run"
  | reset => "engine.reset"
  | listConstants => "constants.list"

def description : Action → String
  | extend => "Expand an origin into its zero-centered sequence"
  | extendRecursive => "Ladder of extensions re-seeded from each level's first term"
  | contract => "Contract values to their mean with an imbalance ratio"
  | cancelDuals => "Cancel opposite pairs and sum what survives"
  | elevate => "Raise a vector to a higher dimension"
  | reduce => "Block-average a vector to a lower dimension"
  | evaluateConstants => "Registered constants with their π-extended and φ-spiral values"
  | synthesize => "Combine two constants and reduce the result"
  | verify => "Consistency scores of the sum of the given values"
  | run => "Run the Seed, Metabolism and Selection pipeline"
  | reset => "Clear the extension cache and the generation history"
  | listConstants => "List the constant registry"

def required : Action → List String
  | extend | extendRecursive => ["origin"]
  | contract | cancelDuals | verify => ["values"]
  | elevate | reduce | run => ["vector"]
  | synthesize => ["a", "b"]
  | evaluateConstants | reset | listConstants => []

def ofName? (name : String) : Option Action := all.find? (·.name == name)

def missing? (action : Action) (arguments : Arguments) : Option RequestError :=
  (action.required.find? (!arguments.isPresent ·)).map (.missingArgument action.name)

end Action
end FormulaLab
