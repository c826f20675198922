import FormulaLab.Decimal.Reading
import FormulaLab.Settings.Basic
import FormulaLab.Settings.Variables

/-! Settings from environment variables. A variable that is missing or cannot be read leaves the
standard value. -/

namespace FormulaLab.Settings

/-- Standard settings overridden by variables, before any validation. -/
def ofVariables (vars : Variables) : Settings Float :=
  let base : Settings Float := standard
  let count (name : String) (standard : Nat) : Nat :=
    ((vars.get? name).bind Decimal.readCount?).getD standard
  { base with
    precision := ((vars.get? "DFUMT_PRECISION").bind Decimal.readFloat?).getD base.precision
    maxDepth := count "DFUMT_MAX_DEPTH" base.maxDepth
    maxReduceSteps := count "DFUMT_MAX_REDUCE_STEPS" base.maxReduceSteps
    populationLimit := count "DFUMT_POPULATION_LIMIT" base.populationLimit
    limits := { base.limits with
      maxVectorLength := count "DFUMT_MAX_VECTOR_LEN" base.limits.maxVectorLength
      timeoutMs := count "DFUMT_TIMEOUT_MS" base.limits.timeoutMs
      maxTargetDimension := count "DFUMT_MAX_TARGET_DIM" base.limits.maxTargetDimension
      maxTurns := count "DFUMT_MAX_TURNS" base.limits.maxTurns
      maxGenerations := count "DFUMT_MAX_GENERATIONS" base.limits.maxGenerations } }

def load (vars : Variables) : Except (SettingsError Float) (Settings Float) :=
  (ofVariables vars).validate

end FormulaLab.Settings
