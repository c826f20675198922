import FormulaLab.Action.Dispatcher
import FormulaLab.Proofs.Engine.Outcome

/-! Requests are atomic. A refused request leaves the engine as it was, whatever its name, its
arguments and the engine; and only four actions change the engine at all. -/

namespace FormulaLab

namespace Action

variable {engine : Engine Float} {arguments : Arguments}

def depthOf (engine : Engine Float) (arguments : Arguments) : Nat :=
  arguments.count "depth" engine.settings.limits.defaultDepth

def maxDepthOf (engine : Engine Float) : Nat := engine.expander.settings.maxDepth

/-- An action fails beyond the greatest depth without any effect, and succeeds within it. -/
def DecidedByDepth (engine : Engine Float) (depth : Nat) (result : ActionResult) : Prop :=
  (maxDepthOf engine < depth ∧
    result = (.error (.range (.depthExceeded depth (maxDepthOf engine))), engine)) ∨
  (depth ≤ maxDepthOf engine ∧
    ∃ output next, result = (.ok output, next) ∧ engine.SameSettings next)

theorem performExtend_decided (engine : Engine Float) (arguments : Arguments) :
    DecidedByDepth engine (depthOf engine arguments) (performExtend engine arguments) := by
  by_cases within : depthOf engine arguments ≤ maxDepthOf engine
  · obtain ⟨expansion, expander, extended, same⟩ :=
      Expander.extend_within (arguments.number "origin" 0) within
    rw [depthOf] at extended
    exact .inr ⟨within, _, { engine with expander },
      by simp only [performExtend, extended]; rfl, rfl, same⟩
  · have beyond := Nat.lt_of_not_le within
    have refused := Expander.extend_beyond (arguments.number "origin" 0) beyond
    rw [depthOf] at refused
    exact .inl ⟨beyond, by simp only [performExtend, refused]; rfl⟩

theorem performExtendRecursive_decided (engine : Engine Float) (arguments : Arguments) :
    DecidedByDepth engine (depthOf engine arguments) (performExtendRecursive engine arguments) := by
  by_cases within : depthOf engine arguments ≤ maxDepthOf engine
  · obtain ⟨levels, expander, extended, same⟩ :=
      Expander.extendRecursive_within (arguments.number "origin" 0) within
    rw [depthOf] at extended
    exact .inr ⟨within, _, { engine with expander },
      by simp only [performExtendRecursive, extended]; rfl, rfl, same⟩
  · have beyond := Nat.lt_of_not_le within
    have refused := Expander.extendRecursive_beyond (arguments.number "origin" 0) beyond
    rw [depthOf] at refused
    exact .inl ⟨beyond, by simp only [performExtendRecursive, refused]; rfl⟩

/-- A failure leaves the engine as it was, a success leaves its settings. -/
def Guarded (engine : Engine Float) (result : ActionResult) : Prop :=
  (∃ e, result = (.error e, engine)) ∨
    ∃ output next, result = (.ok output, next) ∧ engine.SameSettings next

theorem DecidedByDepth.guarded {depth : Nat} {result : ActionResult}
    (decided : DecidedByDepth engine depth result) : Guarded engine result :=
  decided.imp (fun ⟨_, refused⟩ => ⟨_, refused⟩) And.right

theorem guarded_of_unchanged (outcome : Except (Failure Float) ActionOutput) :
    Guarded engine (outcome, engine) := by
  cases outcome with
  | error e => exact .inl ⟨e, rfl⟩
  | ok output => exact .inr ⟨output, engine, rfl, rfl, rfl⟩

/-- A run with readable options over at least one component is decided by its depth, too. -/
theorem performRun_decided {options : RunOptions}
    (chosen : readRunOptions engine.settings.limits arguments = .ok options)
    (nonempty : arguments.vector "vector" engine.settings.limits.maxVectorLength ≠ []) (n : Nat) :
    DecidedByDepth engine options.depth (performRun engine arguments n).1 := by
  simp only [performRun, chosen, bind, StateT.bind]
  by_cases within : options.depth ≤ maxDepthOf engine
  · obtain ⟨report, next, succeeded, same⟩ := Engine.run_within nonempty within n
    generalize engine.run _ options n = outcome at succeeded ⊢
    obtain ⟨result, m⟩ := outcome
    subst succeeded
    exact .inr ⟨within, _, next, rfl, same⟩
  · have beyond := Nat.lt_of_not_le within
    rw [Engine.run_beyond nonempty beyond]
    exact .inl ⟨beyond, rfl⟩

theorem performRun_guarded (engine : Engine Float) (arguments : Arguments) (n : Nat) :
    Guarded engine (performRun engine arguments n).1 := by
  cases chosen : readRunOptions engine.settings.limits arguments with
  | error refusal =>
    simp only [performRun, chosen]
    exact guarded_of_unchanged _
  | ok options =>
    by_cases empty : arguments.vector "vector" engine.settings.limits.maxVectorLength = []
    · simp only [performRun, chosen, empty, bind, StateT.bind, Engine.run_empty]
      exact guarded_of_unchanged _
    · exact (performRun_decided chosen empty n).guarded

/-- The actions that can change an engine. -/
def changing : List Action := [extend, extendRecursive, run, reset]

/-- Every other action leaves the engine as it was. -/
theorem perform_of_not_changing {action : Action} (other : action ∉ changing) (engine : Engine Float)
    (arguments : Arguments) (n : Nat) : (action.perform engine arguments n).1.2 = engine := by
  cases action with
  | extend | extendRecursive | run | reset => exact absurd (by decide) other
  | contract | cancelDuals | elevate | reduce | evaluateConstants | synthesize | verify
  | listConstants => rfl

theorem perform_guarded (action : Action) (engine : Engine Float) (arguments : Arguments) (n : Nat) :
    Guarded engine (action.perform engine arguments n).1 := by
  cases action with
  | extend => exact (performExtend_decided engine arguments).guarded
  | extendRecursive => exact (performExtendRecursive_decided engine arguments).guarded
  | run => exact performRun_guarded engine arguments n
  | reset => exact .inr ⟨_, _, rfl, rfl, rfl⟩
  | contract | cancelDuals | elevate | reduce | evaluateConstants | synthesize | verify
  | listConstants => exact guarded_of_unchanged _

end Action

namespace Dispatcher

/-- A request and its answer between two states of a dispatcher. Either the answer has data and no
error, or it has an error and no data and nothing has happened to the engine. Only the actions that
change an engine can have changed it. -/
structure Atomic (before : Dispatcher) (request : Request) (response : Response)
    (after : Dispatcher) : Prop where
  refused : response.success = false →
    response.data = none ∧ response.error.isSome ∧ after.engine = before.engine
  answered : response.success = true → response.data.isSome ∧ response.error = none
  observed : request.name ∉ Action.changing.map Action.name → after.engine = before.engine

variable {dispatcher after : Dispatcher} {request : Request}

theorem Atomic.of_failure {name : String} {e : Failure Float}
    (same : after.engine = dispatcher.engine) :
    dispatcher.Atomic request (.failure name e) after :=
  ⟨fun _ => ⟨rfl, rfl, same⟩, nofun, fun _ => same⟩

theorem Atomic.of_data {name : String} {data : Json} {summary : String}
    (observed : request.name ∉ Action.changing.map Action.name →
      after.engine = dispatcher.engine) :
    dispatcher.Atomic request (.ofData name data summary) after :=
  ⟨nofun, fun _ => ⟨rfl, rfl⟩, observed⟩

theorem resolve_name {action : Action} (resolved : resolve request = .ok action) :
    action.name = request.name := by
  unfold resolve at resolved
  split at resolved
  · contradiction
  next found known =>
    split at resolved
    · contradiction
    · cases resolved
      exact beq_iff_eq.mp
        (List.find?_some (p := fun action : Action => action.name == request.name) known)

theorem dispatch_unresolved {e : RequestError} (unresolved : resolve request = .error e) (n : Nat) :
    let r := (dispatcher.dispatch request n).1
    r.1 = .failure request.name (.request e) ∧ r.2.engine = dispatcher.engine := by
  simp only [dispatch, execute, unresolved]
  exact ⟨rfl, rfl⟩

/-- A resolved request is answered by the outcome of its action, which leaves the next engine. -/
theorem dispatch_resolved {action : Action} (resolved : resolve request = .ok action) (n : Nat) :
    let r := (dispatcher.dispatch request n).1
    let result := (action.perform dispatcher.engine request.arguments n).1
    (r.1 = match result.1 with
      | .error e => .failure request.name e
      | .ok output => .ofData request.name output.data output.summary) ∧
      r.2.engine = result.2 := by
  simp only [dispatch, execute, resolved, bind, StateT.bind]
  exact ⟨rfl, rfl⟩

/-- Every request is atomic, under any name, with any arguments and on any engine. -/
theorem dispatch_atomic (dispatcher : Dispatcher) (request : Request) (n : Nat) :
    let r := (dispatcher.dispatch request n).1
    dispatcher.Atomic request r.1 r.2 := by
  intro r
  cases resolved : resolve request with
  | error refusal =>
    obtain ⟨response, same⟩ := @dispatch_unresolved dispatcher _ _ resolved n
    rw [response]
    exact .of_failure same
  | ok action =>
    obtain ⟨response, next⟩ := @dispatch_resolved dispatcher _ _ resolved n
    obtain ⟨e, refused⟩ | ⟨output, engine, answered, -⟩ :=
      Action.perform_guarded action dispatcher.engine request.arguments n
    · rw [refused] at response next
      rw [response]
      exact .of_failure next
    · rw [answered] at response
      rw [response]
      refine .of_data fun other => next.trans ?_
      refine Action.perform_of_not_changing (fun changes => other ?_) _ _ n
      rw [← resolve_name resolved]
      exact List.mem_map_of_mem changes

/-- No request changes the settings of an engine. -/
theorem dispatch_sameSettings (dispatcher : Dispatcher) (request : Request) (n : Nat) :
    dispatcher.engine.SameSettings (dispatcher.dispatch request n).1.2.engine := by
  cases resolved : resolve request with
  | error refusal =>
    rw [(dispatch_unresolved resolved n).2]
    exact ⟨rfl, rfl⟩
  | ok action =>
    rw [(dispatch_resolved resolved n).2]
    obtain ⟨e, refused⟩ | ⟨output, next, answered, same⟩ :=
      Action.perform_guarded action dispatcher.engine request.arguments n
    · rw [refused]
      exact ⟨rfl, rfl⟩
    · rw [answered]
      exact same

end Dispatcher
end FormulaLab
