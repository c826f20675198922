import FormulaLab.Contraction
import FormulaLab.Dimension.Mapping
import FormulaLab.Expansion.Memory
import FormulaLab.Population.Evolution
import FormulaLab.Rulebook.Reduction
import FormulaLab.Rulebook.Standard
import FormulaLab.Settings.Basic

/-! The engine: settings, expansions with their memory, the rulebook and the selector. -/

namespace FormulaLab

/-- Causes for which a request to the engine fails before any of its parts is asked. -/
inductive RequestError where
  | unknownAction (name : String)
  | missingArgument (action argument : String)
  | invalidArgument (argument reason : String)
  deriving DecidableEq, Repr

def RequestError.message : RequestError → String
  | unknownAction name => "Unknown action: " ++ name
  | missingArgument action argument =>
    s!"Missing required argument '{argument}' for action {action}"
  | invalidArgument argument reason => s!"Invalid argument '{argument}': {reason}"

/-- Everything that can go wrong, by the part it comes from. -/
inductive Failure (α : Type) where
  | range (error : RangeError)
  | synthesis (error : SynthesisError)
  | selection (error : SelectionError α)
  | request (error : RequestError)
  | settings (error : SettingsError α)
  | unreadable
  | timeout (action : String)

def Failure.message {α : Type} [NumberText α] : Failure α → String
  | range error => "Seed error: " ++ error.message
  | synthesis error => "Metabolism error: " ++ error.message
  | selection error => "Selection error: " ++ error.message
  | request error => "Dispatch error: " ++ error.message
  | settings error => "Configuration error: " ++ error.message
  | unreadable => "Serialization error"
  | timeout action => "execution timeout: " ++ action

structure Engine (α : Type) where
  settings : Settings α
  expander : Expander α
  rulebook : Rulebook α
  selector : Selector α

/-- Sizes of what an engine has accumulated. -/
structure EngineStats where
  cacheEntries : Nat
  historyLength : Nat
  ruleCount : Nat
  criteriaCount : Nat
  deriving DecidableEq, Repr

namespace Engine

variable {α : Type} [Scalar α]

/-- An engine with the standard rules, criteria and constraints. -/
def new (settings : Settings α) : Except (Failure α) (Engine α) :=
  match settings.fault? with
  | some fault => .error (.settings fault)
  | none =>
    match Selector.standard settings.selection with
    | .error e => .error (.selection e)
    | .ok selector =>
      .ok {
        settings
        expander := .new settings.numeric
        rulebook := .standard settings.precision
        selector }

def reduce (engine : Engine α) (f : Formula α) : Fresh (Reduction α) :=
  engine.rulebook.reduce engine.settings.precision engine.settings.maxReduceSteps f

omit [Scalar α] in
def stats (engine : Engine α) : EngineStats where
  cacheEntries := engine.expander.size
  historyLength := engine.selector.history.length
  ruleCount := engine.rulebook.rules.length
  criteriaCount := engine.selector.criteria.items.length

/-- Forgets the expansions and the rounds. -/
def reset (engine : Engine α) : Engine α :=
  { engine with expander := engine.expander.clear, selector := engine.selector.clearHistory }

end Engine
end FormulaLab
