import FormulaLab.Action.Table
import FormulaLab.Document.Report

/-! What each action does with an engine: a document and a summary, or a failure. Required arguments
have been checked before. -/

namespace FormulaLab

structure ActionOutput where
  data : Json
  summary : String

abbrev ActionResult := Except (Failure Float) ActionOutput × Engine Float

namespace Action

def numberText (x : Float) : String := NumberText.plain x

def readMode (arguments : Arguments) : Except (Failure Float) SynthesisMode :=
  let name := arguments.text "mode" "add"
  match SynthesisMode.read name with
  | .ok mode => .ok mode
  | .error _ => .error (.request (.invalidArgument "mode" s!"unknown synthesis mode '{name}'"))

def performExtend (engine : Engine Float) (arguments : Arguments) : ActionResult :=
  let origin := arguments.number "origin" 0
  let depth := arguments.count "depth" engine.settings.limits.defaultDepth
  match engine.expander.extend origin depth with
  | (.error e, expander) => (.error (.range e), { engine with expander })
  | (.ok expansion, expander) =>
    (.ok {
      data := expansion.toJson
      summary := "Extended " ++ numberText origin ++ s!" to {expansion.terms.length} terms" },
      { engine with expander })

def performExtendRecursive (engine : Engine Float) (arguments : Arguments) : ActionResult :=
  let origin := arguments.number "origin" 0
  let depth := arguments.count "depth" engine.settings.limits.defaultDepth
  match engine.expander.extendRecursive origin depth with
  | (.error e, expander) => (.error (.range e), { engine with expander })
  | (.ok levels, expander) =>
    (.ok {
      data := .arr (levels.map Expansion.toJson)
      summary := s!"Built {levels.length} extension levels from " ++ numberText origin },
      { engine with expander })

def contractOutput (engine : Engine Float) (arguments : Arguments) : ActionOutput :=
  let values := arguments.vector "values" engine.settings.limits.maxVectorLength
  let contraction := Contraction.mean engine.settings.precision values
  { data := contraction.toJson
    summary := s!"Contracted {values.length} values to " ++ numberText contraction.contracted }

def cancelDualsOutput (engine : Engine Float) (arguments : Arguments) : ActionOutput :=
  let values := arguments.vector "values" engine.settings.limits.maxVectorLength
  let contraction := Contraction.cancelDuals engine.settings.precision values
  { data := contraction.toJson
    summary := "Cancelled duals: " ++ numberText contraction.contracted
      ++ " remains (loss ratio " ++ NumberText.places 2 contraction.lossRatio ++ ")" }

/-- Document of a resized vector with the mapping between the two dimensions. -/
def resizedJson (engine : Engine Float) (vector resized : List Float) (target : Nat) : Json :=
  .obj [("vector", .ofFloats resized),
    ("mapping", (Mapping.create engine.settings.numeric vector.length target .spiral).toJson)]

def elevateOutput (engine : Engine Float) (arguments : Arguments) :
    Except (Failure Float) ActionOutput := do
  let limits := engine.settings.limits
  let vector := arguments.vector "vector" limits.maxVectorLength
  let target ← (arguments.boundedCount "target" (vector.length * 2)
    limits.maxTargetDimension).mapError .request
  let elevated ← (Dimension.elevate vector target).mapError .range
  return {
    data := resizedJson engine vector elevated target
    summary := s!"Elevated {vector.length} -> {elevated.length}" }

def reduceOutput (engine : Engine Float) (arguments : Arguments) :
    Except (Failure Float) ActionOutput := do
  let limits := engine.settings.limits
  let vector := arguments.vector "vector" limits.maxVectorLength
  let target ← (arguments.boundedCount "target" (max (vector.length / 2) 1)
    limits.maxTargetDimension).mapError .request
  let reduced ← (Dimension.reduce vector target).mapError .range
  return {
    data := resizedJson engine vector reduced target
    summary := s!"Reduced {vector.length} -> {reduced.length}" }

/-- Entry of a constant: its value times the half turn, and times the golden ratio per turn. -/
def constantEntry (precision : Float) (turns : Nat) (constant : Constant Float) : Fresh Json := do
  let leaf ← Formula.labeledConstant constant.value constant.symbol
  let extended := (← leaf.halfTurnScaled).analyze precision
  let spiral := (← leaf.goldenScaled turns).analyze precision
  return .obj [
    ("id", .str constant.id),
    ("symbol", .str constant.symbol),
    ("value", .ofFloat constant.value),
    ("pi_extended", .ofOption Json.ofFloat extended.value),
    ("phi_spiral", .ofOption Json.ofFloat spiral.value)]

def evaluateConstantsOutput (engine : Engine Float) (arguments : Arguments) :
    Fresh (Except (Failure Float) ActionOutput) := do
  match arguments.boundedCount "turns" 1 engine.settings.limits.maxTurns with
  | .error e => return .error (.request e)
  | .ok turns =>
    let entries ← Constant.all.mapM (constantEntry engine.settings.precision turns)
    return .ok {
      data := .arr entries
      summary := s!"Evaluated {entries.length} constants over {turns} φ turns" }

def synthesizeOutput (engine : Engine Float) (arguments : Arguments) :
    Fresh (Except (Failure Float) ActionOutput) := do
  let a ← Formula.leaf (arguments.number "a" 0)
  let b ← Formula.leaf (arguments.number "b" 0)
  match readMode arguments with
  | .error e => return .error e
  | .ok mode =>
    let synthesis := (← Formula.combine mode a b).analyze engine.settings.precision
    let reduction ← engine.reduce synthesis.formula
    return .ok {
      data := .obj [("synthesis", synthesis.toJson), ("reduction", reduction.toJson)]
      summary := synthesis.formula.render ++ " reduced to " ++ reduction.output.render
        ++ s!" in {reduction.steps.length} steps" }

/-- Sum of leaves, grouped to the left; absent without values. -/
def sumOfLeaves? : List Float → Fresh (Option (Formula Float))
  | [] => pure none
  | first :: rest => do
    let first ← Formula.leaf first
    some <$> rest.foldlM (fun sum v => do Formula.binary "+" sum (← Formula.leaf v)) first

def verifyOutput (engine : Engine Float) (arguments : Arguments) :
    Fresh (Except (Failure Float) ActionOutput) := do
  match ← sumOfLeaves? (arguments.vector "values" engine.settings.limits.maxVectorLength) with
  | none =>
    return .error (.request (.invalidArgument "values" "expected at least one number"))
  | some formula =>
    let score : Float := formula.verify
    return .ok {
      data := .obj [
        ("formula", .str formula.render),
        ("math", formula.structureReport.toJson),
        ("dfumt", formula.principles.toJson),
        ("score", .ofFloat score)]
      summary := formula.render ++ " verified with score " ++ NumberText.places 2 score }

def readRunOptions (limits : RequestLimits) (arguments : Arguments) :
    Except (Failure Float) RunOptions := do
  let mode ← readMode arguments
  let depth := arguments.count "depth" limits.defaultDepth
  let generations ← (arguments.boundedCount "generations" limits.defaultGenerations
    limits.maxGenerations).mapError .request
  return { depth, mode, generations }

def performRun (engine : Engine Float) (arguments : Arguments) : Fresh ActionResult := do
  let limits := engine.settings.limits
  match readRunOptions limits arguments with
  | .error e => return (.error e, engine)
  | .ok options =>
    match ← engine.run (arguments.vector "vector" limits.maxVectorLength) options with
    | (.error e, engine) => return (.error e, engine)
    | (.ok report, engine) =>
      return (.ok { data := report.toJson, summary := report.summary }, engine)

def performReset (engine : Engine Float) : ActionResult :=
  let before := engine.stats
  let engine := engine.reset
  (.ok {
    data := .obj [("before", before.toJson), ("after", engine.stats.toJson)]
    summary := s!"Cleared {before.cacheEntries} cached extensions "
      ++ s!"and {before.historyLength} generations" }, engine)

def listConstantsOutput : ActionOutput where
  data := .arr (Constant.all.map Constant.toJson)
  summary := s!"{(Constant.all (α := Float)).length} constants"

def perform (action : Action) (engine : Engine Float) (arguments : Arguments) :
    Fresh ActionResult :=
  match action with
  | extend => pure (performExtend engine arguments)
  | extendRecursive => pure (performExtendRecursive engine arguments)
  | contract => pure (.ok (contractOutput engine arguments), engine)
  | cancelDuals => pure (.ok (cancelDualsOutput engine arguments), engine)
  | elevate => pure (elevateOutput engine arguments, engine)
  | reduce => pure (reduceOutput engine arguments, engine)
  | evaluateConstants => return (← evaluateConstantsOutput engine arguments, engine)
  | synthesize => return (← synthesizeOutput engine arguments, engine)
  | verify => return (← verifyOutput engine arguments, engine)
  | run => performRun engine arguments
  | reset => pure (performReset engine)
  | listConstants => pure (.ok listConstantsOutput, engine)

end Action
end FormulaLab
