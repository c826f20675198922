import FormulaLab.Decimal.Text
import FormulaLab.Expansion.Basic
import FormulaLab.Population.Selector

/-! Settings of an engine, their standard values and the conditions under which they are accepted. -/

namespace FormulaLab

/-- Limits and defaults for the arguments of requests. -/
structure RequestLimits where
  /-- Vectors are cut off behind this many components. -/
  maxVectorLength : Nat
  /-- Time after which a caller is told that the request timed out. -/
  timeoutMs : Nat
  defaultDepth : Nat
  defaultGenerations : Nat
  maxTargetDimension : Nat
  maxTurns : Nat
  maxGenerations : Nat
  deriving DecidableEq, Repr

structure Settings (α : Type) where
  /-- Shared by all components. -/
  precision : α
  maxDepth : Nat
  fixedPointTolerance : α
  fixedPointIterations : Nat
  maxReduceSteps : Nat
  populationLimit : Nat
  limits : RequestLimits

inductive SettingsError (α : Type) where
  | precision (given : α)
  | populationLimit
  | vectorLength
  | limitsBelowOne
  | defaultsBeyondLimits

def SettingsError.message {α : Type} [NumberText α] : SettingsError α → String
  | precision given => "precision must be positive, got " ++ NumberText.plain given
  | populationLimit => "population limit must be at least 1"
  | vectorLength => "max vector length must be at least 1"
  | limitsBelowOne => "facade argument limits must be at least 1"
  | defaultsBeyondLimits => "facade defaults must lie within the facade limits"

def RequestLimits.standard : RequestLimits where
  maxVectorLength := 256
  timeoutMs := 5000
  defaultDepth := 3
  defaultGenerations := 5
  maxTargetDimension := 4096
  maxTurns := 64
  maxGenerations := 100

namespace Settings

variable {α : Type} [Scalar α]

def version : String := "0.1.0"

def standard : Settings α where
  precision := 1e-10
  maxDepth := 64
  fixedPointTolerance := 1e-6
  fixedPointIterations := 100
  maxReduceSteps := 100
  populationLimit := 20
  limits := .standard

/-- First reason to refuse settings. A run raises a vector to twice its dimension, so the greatest
vector must fit the greatest target dimension twice. -/
def fault? (settings : Settings α) : Option (SettingsError α) :=
  let limits := settings.limits
  if !(Scalar.isFinite settings.precision && decide (0 < settings.precision)) then
    some (.precision settings.precision)
  else if settings.populationLimit = 0 then some .populationLimit
  else if limits.maxVectorLength = 0 then some .vectorLength
  else if limits.maxTargetDimension = 0 ∨ limits.maxTurns = 0 ∨ limits.maxGenerations = 0 then
    some .limitsBelowOne
  else if settings.maxDepth < limits.defaultDepth
      ∨ limits.maxGenerations < limits.defaultGenerations
      ∨ limits.maxTargetDimension < min maxCount (2 * limits.maxVectorLength) then
    some .defaultsBeyondLimits
  else none

def validate (settings : Settings α) : Except (SettingsError α) (Settings α) :=
  match settings.fault? with
  | some fault => .error fault
  | none => .ok settings

omit [Scalar α] in
def numeric (settings : Settings α) : NumericSettings α where
  precision := settings.precision
  maxDepth := settings.maxDepth
  fixedPointTolerance := settings.fixedPointTolerance
  fixedPointIterations := settings.fixedPointIterations

end Settings

/-- Standard settings of a selector on its own. -/
def SelectionSettings.standard {α : Type} [Scalar α] : SelectionSettings α where
  populationLimit := 20
  precision := 1e-10
  complexityLimit := 64
  depthLimit := 16
  softPenalty := 0.1

def Settings.selection {α : Type} [Scalar α] (settings : Settings α) : SelectionSettings α :=
  { SelectionSettings.standard with
    populationLimit := settings.populationLimit, precision := settings.precision }

end FormulaLab
