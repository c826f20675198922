import FormulaLab.Document.Judgement
import FormulaLab.Document.Sequence
import FormulaLab.Engine.Run

/-! Reports of runs and sizes of engines as documents. -/

namespace FormulaLab

def RunOptions.toJson (options : RunOptions) : Json := .obj [
  ("depth", .ofNat options.depth),
  ("mode", .str options.mode.name),
  ("generations", .ofNat options.generations)]

def NumericPhase.toJson (phase : NumericPhase Float) : Json := .obj [
  ("extensions", .arr (phase.expansions.map Expansion.toJson)),
  ("elevated", .ofFloats phase.elevated),
  ("reduced", .ofFloats phase.reduced)]

def FormulaPhase.toJson (phase : FormulaPhase Float) : Json := .obj [
  ("formulas", .arr (phase.formulas.map Formula.toJson)),
  ("syntheses", .arr (phase.syntheses.map Analysis.toJson)),
  ("chain", phase.chain.toJson),
  ("reductions", .arr (phase.reductions.map Reduction.toJson))]

def RunReport.toJson (report : RunReport Float) : Json := .obj [
  ("input", .ofFloats report.input),
  ("options", report.options.toJson),
  ("seed", report.numeric.toJson),
  ("metabolism", report.formula.toJson),
  ("selection", report.evolution.toJson),
  ("summary", .str report.summary)]

def EngineStats.toJson (stats : EngineStats) : Json := .obj [
  ("cache_entries", .ofNat stats.cacheEntries),
  ("history_len", .ofNat stats.historyLength),
  ("rule_count", .ofNat stats.ruleCount),
  ("criteria_count", .ofNat stats.criteriaCount)]

end FormulaLab
