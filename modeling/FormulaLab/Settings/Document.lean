import FormulaLab.Json.Reader
import FormulaLab.Settings.Basic

/-! Settings as documents of four sections. Reading requires every field of every section. -/

namespace FormulaLab

def RequestLimits.toJson (limits : RequestLimits) : Json := .obj [
  ("max_vector_len", .ofNat limits.maxVectorLength),
  ("timeout_ms", .ofNat limits.timeoutMs),
  ("default_depth", .ofNat limits.defaultDepth),
  ("default_generations", .ofNat limits.defaultGenerations),
  ("max_target_dim", .ofNat limits.maxTargetDimension),
  ("max_turns", .ofNat limits.maxTurns),
  ("max_generations", .ofNat limits.maxGenerations)]

namespace Settings

def toJson (settings : Settings Float) : Json := .obj [
  ("seed", .obj [
    ("precision", .ofFloat settings.precision),
    ("max_depth", .ofNat settings.maxDepth),
    ("fixed_point_tolerance", .ofFloat settings.fixedPointTolerance),
    ("fixed_point_iterations", .ofNat settings.fixedPointIterations)]),
  ("metabolism", .obj [("max_reduce_steps", .ofNat settings.maxReduceSteps)]),
  ("selection", .obj [("population_limit", .ofNat settings.populationLimit)]),
  ("facade", settings.limits.toJson)]

/-- Declared fields of a section, all of them present. -/
def fields? (names : List String) (section? : Option Json.Source) : Option (List Json.Source) := do
  (← (← section?).record? names).mapM id

def readLimits? (source : Option Json.Source) : Option RequestLimits := do
  match ← fields? ["max_vector_len", "timeout_ms", "default_depth", "default_generations",
      "max_target_dim", "max_turns", "max_generations"] source with
  | [length, timeout, depth, generations, target, turns, maxGenerations] =>
    return {
      maxVectorLength := ← length.nat?
      timeoutMs := ← timeout.nat?
      defaultDepth := ← depth.nat?
      defaultGenerations := ← generations.nat?
      maxTargetDimension := ← target.nat?
      maxTurns := ← turns.nat?
      maxGenerations := ← maxGenerations.nat? }
  | _ => none

def ofSource? (source : Json.Source) : Option (Settings Float) := do
  match ← source.record? ["seed", "metabolism", "selection", "facade"] with
  | [seed, metabolism, selection, facade] =>
    match ← fields? ["precision", "max_depth", "fixed_point_tolerance", "fixed_point_iterations"]
        seed,
      ← fields? ["max_reduce_steps"] metabolism,
      ← fields? ["population_limit"] selection with
    | [precision, depth, tolerance, iterations], [steps], [limit] =>
      return {
        precision := ← precision.float?
        maxDepth := ← depth.nat?
        fixedPointTolerance := ← tolerance.float?
        fixedPointIterations := ← iterations.nat?
        maxReduceSteps := ← steps.nat?
        populationLimit := ← limit.nat?
        limits := ← readLimits? facade }
    | _, _, _ => none
  | _ => none

/-- Settings written in a text, before any validation. -/
def read? (text : String) : Option (Settings Float) := (Json.Source.read text).bind ofSource?

end Settings
end FormulaLab
