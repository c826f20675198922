import FormulaLab.Proofs.Action.Atomicity

/-! Requests as tasks. To answer a request is to read its arguments, to have the components do what
they ask for, and to write down what the components come up with. The task between the first two is all
that the components see of a request, and the answer between the last two is all that they produce. -/

namespace FormulaLab

/-- What a request asks of the components. -/
inductive Task where
  | extend (origin : Float) (depth : Nat)
  | extendRecursive (origin : Float) (depth : Nat)
  | contract (values : List Float)
  | cancelDuals (values : List Float)
  | elevate (vector : List Float) (target : Nat)
  | reduce (vector : List Float) (target : Nat)
  | evaluateConstants (turns : Nat)
  | synthesize (a b : Float) (mode : SynthesisMode)
  | verify (values : List Float)
  | run (vector : List Float) (options : RunOptions)
  | reset
  | listConstants

/-- What the components come up with. -/
inductive Answer where
  | expansion (origin : Float) (x : Expansion Float)
  | ladder (origin : Float) (levels : List (Expansion Float))
  | contraction (given : Nat) (mean : Contraction Float)
  | cancellation (rest : Contraction Float)
  | elevated (source : Nat) (vector : List Float) (mapping : Mapping Float)
  | reduced (source : Nat) (vector : List Float) (mapping : Mapping Float)
  | constants (turns : Nat) (entries : List Json)
  | synthesis (combined : Analysis Float) (reduction : Reduction Float)
  | verified (formula : Formula Float)
  | report (r : RunReport Float)
  | cleared (before after : EngineStats)
  | constantList

namespace Action

/-- The task of a request for an action, or the reason why an argument is refused. -/
def task? (limits : RequestLimits) (arguments : Arguments) : Action → Except (Failure Float) Task
  | extend => .ok (.extend (arguments.number "origin" 0) (arguments.count "depth" limits.defaultDepth))
  | extendRecursive =>
    .ok (.extendRecursive (arguments.number "origin" 0) (arguments.count "depth" limits.defaultDepth))
  | contract => .ok (.contract (arguments.vector "values" limits.maxVectorLength))
  | cancelDuals => .ok (.cancelDuals (arguments.vector "values" limits.maxVectorLength))
  | elevate =>
    let vector := arguments.vector "vector" limits.maxVectorLength
    ((arguments.boundedCount "target" (vector.length * 2) limits.maxTargetDimension).mapError
      .request).map (.elevate vector)
  | reduce =>
    let vector := arguments.vector "vector" limits.maxVectorLength
    ((arguments.boundedCount "target" (max (vector.length / 2) 1) limits.maxTargetDimension).mapError
      .request).map (.reduce vector)
  | evaluateConstants =>
    ((arguments.boundedCount "turns" 1 limits.maxTurns).mapError .request).map .evaluateConstants
  | synthesize =>
    (readMode arguments).map (.synthesize (arguments.number "a" 0) (arguments.number "b" 0))
  | verify => .ok (.verify (arguments.vector "values" limits.maxVectorLength))
  | run =>
    (readRunOptions limits arguments).map (.run (arguments.vector "vector" limits.maxVectorLength))
  | reset => .ok .reset
  | listConstants => .ok .listConstants

end Action

namespace Task

/-- What the components do. -/
def carryOut (engine : Engine Float) : Task → Fresh (Except (Failure Float) Answer × Engine Float)
  | extend origin depth =>
    let (extended, expander) := engine.expander.extend origin depth
    pure ((extended.mapError .range).map (.expansion origin), { engine with expander })
  | extendRecursive origin depth =>
    let (levels, expander) := engine.expander.extendRecursive origin depth
    pure ((levels.mapError .range).map (.ladder origin), { engine with expander })
  | contract values =>
    pure (.ok (.contraction values.length (Contraction.mean engine.settings.precision values)), engine)
  | cancelDuals values =>
    pure (.ok (.cancellation (Contraction.cancelDuals engine.settings.precision values)), engine)
  | elevate vector target =>
    pure (((Dimension.elevate vector target).mapError .range).map fun elevated =>
      .elevated vector.length elevated
        (.create engine.settings.numeric vector.length target .spiral), engine)
  | reduce vector target =>
    pure (((Dimension.reduce vector target).mapError .range).map fun reduced =>
      .reduced vector.length reduced
        (.create engine.settings.numeric vector.length target .spiral), engine)
  | evaluateConstants turns => do
    let entries ← Constant.all.mapM (Action.constantEntry engine.settings.precision turns)
    return (.ok (.constants turns entries), engine)
  | synthesize a b mode => do
    let a ← Formula.leaf a
    let b ← Formula.leaf b
    let synthesis := (← Formula.combine mode a b).analyze engine.settings.precision
    let reduction ← engine.reduce synthesis.formula
    return (.ok (.synthesis synthesis reduction), engine)
  | verify values => do
    match ← Action.sumOfLeaves? values with
    | none =>
      return (.error (.request (.invalidArgument "values" "expected at least one number")), engine)
    | some formula => return (.ok (.verified formula), engine)
  | run vector options => do
    let (report, engine) ← engine.run vector options
    return (report.map .report, engine)
  | reset => pure (.ok (.cleared engine.stats engine.reset.stats), engine.reset)
  | listConstants => pure (.ok .constantList, engine)

/-- What comes of a task that was read. -/
def outcome (engine : Engine Float) (n : Nat) :
    Except (Failure Float) Task → Except (Failure Float) Answer × Engine Float
  | .error e => (.error e, engine)
  | .ok task => (task.carryOut engine n).1

end Task

namespace Answer

/-- Document of a resized vector with its mapping. -/
def resizedJson (vector : List Float) (mapping : Mapping Float) : Json :=
  .obj [("vector", .ofFloats vector), ("mapping", mapping.toJson)]

/-- How an answer is written down. -/
def output : Answer → ActionOutput
  | expansion origin x => {
      data := x.toJson
      summary := "Extended " ++ Action.numberText origin ++ s!" to {x.terms.length} terms" }
  | ladder origin levels => {
      data := .arr (levels.map Expansion.toJson)
      summary := s!"Built {levels.length} extension levels from " ++ Action.numberText origin }
  | contraction given mean => {
      data := mean.toJson
      summary := s!"Contracted {given} values to " ++ Action.numberText mean.contracted }
  | cancellation rest => {
      data := rest.toJson
      summary := "Cancelled duals: " ++ Action.numberText rest.contracted
        ++ " remains (loss ratio " ++ NumberText.places 2 rest.lossRatio ++ ")" }
  | elevated source vector mapping => {
      data := resizedJson vector mapping
      summary := s!"Elevated {source} -> {vector.length}" }
  | reduced source vector mapping => {
      data := resizedJson vector mapping
      summary := s!"Reduced {source} -> {vector.length}" }
  | constants turns entries => {
      data := .arr entries
      summary := s!"Evaluated {entries.length} constants over {turns} φ turns" }
  | synthesis combined reduction => {
      data := .obj [("synthesis", combined.toJson), ("reduction", reduction.toJson)]
      summary := combined.formula.render ++ " reduced to " ++ reduction.output.render
        ++ s!" in {reduction.steps.length} steps" }
  | verified formula =>
    let score : Float := formula.verify
    { data := .obj [
        ("formula", .str formula.render),
        ("math", formula.structureReport.toJson),
        ("dfumt", formula.principles.toJson),
        ("score", .ofFloat score)]
      summary := formula.render ++ " verified with score " ++ NumberText.places 2 score }
  | report r => { data := r.toJson, summary := r.summary }
  | cleared before after => {
      data := .obj [("before", before.toJson), ("after", after.toJson)]
      summary := s!"Cleared {before.cacheEntries} cached extensions "
        ++ s!"and {before.historyLength} generations" }
  | constantList => Action.listConstantsOutput

def written (outcome : Except (Failure Float) Answer × Engine Float) : ActionResult :=
  (outcome.1.map output, outcome.2)

end Answer

namespace Action

variable {engine : Engine Float} {arguments : Arguments}

/-- An action reads a task, has it carried out and writes down the answer. -/
theorem perform_eq (action : Action) (engine : Engine Float) (arguments : Arguments) (n : Nat) :
    (action.perform engine arguments n).1 =
      Answer.written (Task.outcome engine n (action.task? engine.settings.limits arguments)) := by
  cases action with
  | extend =>
    change performExtend engine arguments = _
    unfold performExtend
    simp only [task?, Task.outcome, Task.carryOut]
    generalize engine.expander.extend _ _ = extended
    obtain ⟨x, expander⟩ := extended
    cases x <;> rfl
  | extendRecursive =>
    change performExtendRecursive engine arguments = _
    unfold performExtendRecursive
    simp only [task?, Task.outcome, Task.carryOut]
    generalize engine.expander.extendRecursive _ _ = extended
    obtain ⟨x, expander⟩ := extended
    cases x <;> rfl
  | contract | cancelDuals | reset | listConstants => rfl
  | elevate =>
    change (elevateOutput engine arguments, engine) = _
    unfold elevateOutput
    simp only [task?, Task.outcome]
    generalize arguments.boundedCount "target" _ _ = target
    cases target with
    | error e => rfl
    | ok target =>
      simp only [Except.mapError, Except.map, Task.carryOut, bind, Except.bind]
      generalize Dimension.elevate (α := Float) _ target = resized
      cases resized <;> rfl
  | reduce =>
    change (reduceOutput engine arguments, engine) = _
    unfold reduceOutput
    simp only [task?, Task.outcome]
    generalize arguments.boundedCount "target" _ _ = target
    cases target with
    | error e => rfl
    | ok target =>
      simp only [Except.mapError, Except.map, Task.carryOut, bind, Except.bind]
      generalize Dimension.reduce (α := Float) _ target = resized
      cases resized <;> rfl
  | evaluateConstants =>
    simp only [perform, evaluateConstantsOutput, task?]
    generalize arguments.boundedCount "turns" _ _ = turns
    cases turns <;> rfl
  | synthesize =>
    simp only [perform, synthesizeOutput, task?]
    generalize readMode arguments = mode
    cases mode <;> rfl
  | verify =>
    simp only [perform, verifyOutput, task?, Task.outcome, Task.carryOut, bind, StateT.bind]
    generalize sumOfLeaves? _ n = sum
    obtain ⟨formula, m⟩ := sum
    cases formula <;> rfl
  | run =>
    simp only [perform, performRun, task?]
    generalize readRunOptions _ _ = options
    cases options with
    | error e => rfl
    | ok options =>
      simp only [Task.outcome, Except.map, Task.carryOut, bind, StateT.bind]
      generalize engine.run _ options n = ran
      obtain ⟨⟨report, next⟩, m⟩ := ran
      cases report <;> rfl

end Action

/-- The task of a request, or the reason why it is refused. -/
def Request.task? (limits : RequestLimits) (request : Request) : Except (Failure Float) Task :=
  match Dispatcher.resolve request with
  | .error e => .error (.request e)
  | .ok action => action.task? limits request.arguments

def Response.ofAnswer (name : String) : Except (Failure Float) Answer → Response
  | .error e => .failure name e
  | .ok answer => .ofData name answer.output.data answer.output.summary

/-- A request is answered by the outcome of its task. -/
theorem Dispatcher.dispatch_eq (dispatcher : Dispatcher) (request : Request) (n : Nat) :
    let r := (dispatcher.dispatch request n).1
    let outcome := Task.outcome dispatcher.engine n
      (request.task? dispatcher.engine.settings.limits)
    r.1 = .ofAnswer request.name outcome.1 ∧ r.2.engine = outcome.2 := by
  intro r outcome
  cases resolved : resolve request with
  | error e =>
    have refused : outcome = (.error (.request e), dispatcher.engine) := by
      simp only [outcome, Request.task?, resolved]
      rfl
    rw [refused]
    exact dispatch_unresolved resolved n
  | ok action =>
    have read : outcome = Task.outcome dispatcher.engine n
        (action.task? dispatcher.engine.settings.limits request.arguments) := by
      simp only [outcome, Request.task?, resolved]
    obtain ⟨response, engine⟩ := @dispatch_resolved dispatcher _ _ resolved n
    rw [Action.perform_eq, ← read] at response engine
    refine ⟨response.trans ?_, engine⟩
    rw [Answer.written]
    cases outcome.1 <;> rfl

end FormulaLab
