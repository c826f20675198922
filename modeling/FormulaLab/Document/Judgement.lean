import FormulaLab.Consistency.Principles
import FormulaLab.Document.Formula
import FormulaLab.Population.Evolution
import FormulaLab.Rulebook.Reduction

/-! Analyses, reductions, reports on consistency and everything about populations as documents. -/

namespace FormulaLab

def Analysis.toJson (analysis : Analysis Float) : Json := .obj [
  ("formula", analysis.formula.toJson),
  ("complexity", .ofNat analysis.complexity),
  ("depth", .ofNat analysis.depth),
  ("dual_balance", .ofFloat analysis.balance),
  ("energy", .ofFloat analysis.energy),
  ("value", .ofOption Json.ofFloat analysis.value)]

def ReductionStep.toJson (step : ReductionStep Float) : Json := .obj [
  ("step", .ofNat step.step),
  ("rule", .str step.rule),
  ("applications", .ofNat step.applications),
  ("delta", .ofFloat step.delta)]

def Reduction.toJson (reduction : Reduction Float) : Json := .obj [
  ("input", reduction.input.toJson),
  ("output", reduction.output.toJson),
  ("steps", .arr (reduction.steps.map ReductionStep.toJson)),
  ("converged", .bool reduction.converged),
  ("analysis", reduction.analysis.toJson)]

def Issue.toJson : Issue Float → Json
  | .cycle nodeId => .obj [("kind", .str "cycle"), ("node_id", .str nodeId)]
  | .divisionByZero nodeId => .obj [("kind", .str "division_by_zero"), ("node_id", .str nodeId)]
  | .nonFiniteConstant nodeId =>
    .obj [("kind", .str "non_finite_constant"), ("node_id", .str nodeId)]
  | .signImbalance ratio => .obj [("kind", .str "sign_imbalance"), ("ratio", .ofFloat ratio)]

def StructureReport.toJson (report : StructureReport Float) : Json := .obj [
  ("issues", .arr (report.issues.map Issue.toJson)),
  ("score", .ofFloat report.score)]

def Principles.toJson (principles : Principles Float) : Json := .obj [
  ("zero_invariance", .bool principles.zeroInvariance),
  ("duality", .bool principles.duality),
  ("golden_magnitude", .bool principles.goldenMagnitude),
  ("constant_ratio", .bool principles.constantRatio),
  ("finiteness", .bool principles.finiteness),
  ("overall_score", .ofFloat principles.score)]

def Candidate.toJson (c : Candidate Float) : Json := .obj [
  ("id", .ofNat c.id),
  ("synthesis", c.analysis.toJson),
  ("metadata", .obj c.metadata),
  ("generation", .ofNat c.generation),
  ("age", .ofNat c.age),
  ("fitness", .ofFloat c.fitness)]

def CriterionScore.toJson (part : CriterionScore Float) : Json := .obj [
  ("name", .str part.name),
  ("score", .ofFloat part.score),
  ("weighted", .ofFloat part.weighted),
  ("passed", .bool part.passed)]

def Evaluation.toJson (evaluation : Evaluation Float) : Json := .obj [
  ("candidate_id", .ofNat evaluation.candidateId),
  ("scores", .arr (evaluation.scores.map CriterionScore.toJson)),
  ("violations", .arr (evaluation.violations.map Json.str)),
  ("penalty", .ofFloat evaluation.penalty),
  ("total_score", .ofFloat evaluation.total),
  ("verdict", .str evaluation.verdict.name)]

def Round.toJson (round : Round Float) : Json := .obj [
  ("generation", .ofNat round.generation),
  ("candidates", .arr (round.candidates.map Candidate.toJson)),
  ("results", .arr (round.results.map Evaluation.toJson)),
  ("survivors", .arr (round.survivors.map Candidate.toJson)),
  ("eliminated", .arr (round.eliminated.map Candidate.toJson)),
  ("mutated", .arr (round.mutated.map Candidate.toJson)),
  ("avg_fitness", .ofFloat round.averageFitness),
  ("diversity_index", .ofFloat round.diversity)]

def Evolution.toJson (evolution : Evolution Float) : Json := .obj [
  ("generations", .arr (evolution.rounds.map Round.toJson)),
  ("final_population", .arr (evolution.finalPopulation.map Candidate.toJson)),
  ("best", .ofOption Candidate.toJson evolution.best)]

end FormulaLab
