import FormulaLab.Proofs.Action.Atomicity
import FormulaLab.Proofs.Engine.Configured
import FormulaLab.Proofs.Scalar.Counts

/-! Requests that give nothing but what is required. Accepted settings answer all of them, unless no
depth is permitted at all: the settings compare a default as it is written, but a request raises it to
one and rounds it before it is compared with the limit. -/

namespace FormulaLab

namespace Arguments

variable {arguments : Arguments} {name : String}

/-- Count that stands in for one that is not given. -/
def standardCount (standard : Nat) : Nat := max 1 (Scalar.roundNat (Scalar.ofNat standard : Float))

theorem standardCount_pos (standard : Nat) : 0 < standardCount standard :=
  Nat.le_max_left 1 _

theorem standardCount_held {standard : Nat} (held : standard ≤ 2 ^ 53) :
    standardCount standard = max 1 standard := by
  rw [standardCount, Scalar.roundNat_ofNat held]

theorem get?_of_absent (absent : arguments.isPresent name = false) :
    arguments.get? name = none ∨ arguments.get? name = some .null := by
  unfold isPresent at absent
  cases given : arguments.get? name with
  | none => exact .inl rfl
  | some json =>
    rw [given] at absent
    cases json with
    | null => exact .inr rfl
    | _ => contradiction

theorem count_absent (absent : arguments.isPresent name = false) (standard : Nat) :
    arguments.count name standard = standardCount standard := by
  rw [count, standardCount, number]
  obtain missing | null := get?_of_absent absent
  · rw [missing]
    rfl
  · rw [null]
    rfl

theorem text_absent (absent : arguments.isPresent name = false) (standard : String) :
    arguments.text name standard = standard := by
  rw [text]
  obtain missing | null := get?_of_absent absent
  · rw [missing]
    rfl
  · rw [null]
    rfl

theorem boundedCount_absent (absent : arguments.isPresent name = false) (standard limit : Nat) :
    arguments.boundedCount name standard limit =
      if limit < standardCount standard then
        .error (.invalidArgument name s!"must be at most {limit}, got {standardCount standard}")
      else .ok (standardCount standard) := by
  rw [← count_absent absent]
  rfl

theorem vector_length_le (arguments : Arguments) (name : String) (maxLength : Nat) :
    (arguments.vector name maxLength).length ≤ maxLength := by
  unfold vector
  split
  · rw [List.length_map, List.length_take]
    exact Nat.min_le_left _ _
  · exact Nat.zero_le _

theorem vector_ne_nil {first : Json} {rest : List Json} {maxLength : Nat}
    (given : arguments.get? name = some (.arr (first :: rest))) (room : 0 < maxLength) :
    arguments.vector name maxLength ≠ [] := by
  obtain ⟨n, rfl⟩ := Nat.exists_eq_add_one.mpr room
  rw [vector, given]
  exact List.cons_ne_nil _ _

end Arguments

namespace Action

variable {engine : Engine Float} {arguments : Arguments} {action : Action}

/-- The required arguments are given, sequences with at least one element, and nothing else is. -/
structure Bare (action : Action) (arguments : Arguments) : Prop where
  given : ∀ name ∈ action.required, arguments.isPresent name = true
  filled : ∀ name ∈ action.required, name ∈ ["values", "vector"] →
    ∃ first rest, arguments.get? name = some (.arr (first :: rest))
  others : ∀ name ∈ ["depth", "target", "turns", "generations", "mode"],
    arguments.isPresent name = false

theorem Bare.vector_ne_nil (bare : action.Bare arguments) {name : String}
    (required : name ∈ action.required) (sequence : name ∈ ["values", "vector"]) {maxLength : Nat}
    (room : 0 < maxLength) : arguments.vector name maxLength ≠ [] := by
  obtain ⟨first, rest, given⟩ := bare.filled name required sequence
  exact Arguments.vector_ne_nil given room

/-- The defaults of an action are within the limits, as they are compared for a request that gives a
vector of some length. -/
def DefaultsFit (settings : Settings Float) (length : Nat) : Action → Prop
  | extend | extendRecursive =>
    Arguments.standardCount settings.limits.defaultDepth ≤ settings.maxDepth
  | run =>
    Arguments.standardCount settings.limits.defaultDepth ≤ settings.maxDepth ∧
      Arguments.standardCount settings.limits.defaultGenerations ≤ settings.limits.maxGenerations
  | elevate =>
    Arguments.standardCount (length * 2) ≤ settings.limits.maxTargetDimension ∧
      length ≤ Arguments.standardCount (length * 2)
  | reduce =>
    Arguments.standardCount (max (length / 2) 1) ≤ settings.limits.maxTargetDimension ∧
      Arguments.standardCount (max (length / 2) 1) ≤ length
  | evaluateConstants => Arguments.standardCount 1 ≤ settings.limits.maxTurns
  | contract | cancelDuals | synthesize | verify | reset | listConstants => True

/-- The actions that expand numbers. -/
def deepening : List Action := [extend, extendRecursive, run]

/-- Where rounding changes no default, the least depth is all that accepted settings may lack. -/
theorem defaultsFit_iff {settings : Settings Float} {length : Nat}
    (consistent : settings.Consistent) (nonempty : action ∈ [elevate, reduce] → 0 < length)
    (short : length ≤ settings.limits.maxVectorLength)
    (depth : settings.limits.defaultDepth ≤ 2 ^ 53)
    (generations : settings.limits.defaultGenerations ≤ 2 ^ 53) (held : length * 2 ≤ 2 ^ 53) :
    action.DefaultsFit settings length ↔ (action ∈ deepening → 0 < settings.maxDepth) := by
  obtain ⟨-, -, turns, limit, defaultDepth, defaultGenerations, doubled⟩ := consistent
  have large : 2 ^ 53 ≤ maxCount := by decide
  cases action with
  | extend | extendRecursive =>
    simp only [DefaultsFit, Arguments.standardCount_held depth, deepening, List.mem_cons, true_or,
      or_true, true_implies]
    omega
  | run =>
    simp only [DefaultsFit, Arguments.standardCount_held depth,
      Arguments.standardCount_held generations, deepening, List.mem_cons, true_or, or_true,
      true_implies]
    omega
  | elevate =>
    -- Accepted settings leave room for twice the longest vector.
    have some := nonempty (by decide)
    rw [DefaultsFit, Arguments.standardCount_held held]
    exact iff_of_true (by omega) (fun impossible => absurd impossible (by decide))
  | reduce =>
    have some := nonempty (by decide)
    rw [DefaultsFit, Arguments.standardCount_held (by omega)]
    exact iff_of_true (by omega) (fun impossible => absurd impossible (by decide))
  | evaluateConstants =>
    rw [DefaultsFit, Arguments.standardCount_held (by decide)]
    exact iff_of_true (by omega) (fun impossible => absurd impossible (by decide))
  | contract | cancelDuals | synthesize | verify | reset | listConstants =>
    exact iff_of_true trivial (fun impossible => absurd impossible (by decide))

theorem DecidedByDepth.isOk_iff {depth : Nat} {result : ActionResult}
    (decided : DecidedByDepth engine depth result) :
    result.1.isOk = true ↔ depth ≤ maxDepthOf engine := by
  obtain ⟨beyond, refused⟩ | ⟨within, output, next, succeeded, -⟩ := decided
  · rw [refused]
    exact iff_of_false Bool.false_ne_true (Nat.not_le.mpr beyond)
  · rw [succeeded]
    exact iff_of_true rfl within

/-- An omitted target is compared with the limit first, then the vector is resized. -/
theorem resize_isOk_iff (absent : arguments.isPresent "target" = false) {standard limit : Nat}
    {resize : Nat → Except RangeError (List Float)} {output : Nat → List Float → ActionOutput} :
    (do
      let target ← (arguments.boundedCount "target" standard limit).mapError Failure.request
      let resized ← (resize target).mapError Failure.range
      return output target resized : Except (Failure Float) ActionOutput).isOk = true ↔
      Arguments.standardCount standard ≤ limit ∧
        (resize (Arguments.standardCount standard)).isOk = true := by
  rw [Arguments.boundedCount_absent absent]
  by_cases beyond : limit < Arguments.standardCount standard
  · rw [if_pos beyond]
    exact iff_of_false Bool.false_ne_true fun fits => Nat.not_lt.mpr fits.1 beyond
  · rw [if_neg beyond, and_iff_right (Nat.le_of_not_lt beyond)]
    simp only [bind, Except.bind, Except.mapError]
    cases resize (Arguments.standardCount standard) with
    | error e => exact Iff.rfl
    | ok resized => exact Iff.rfl

theorem evaluateConstantsOutput_isOk_iff (absent : arguments.isPresent "turns" = false) (n : Nat) :
    (evaluateConstantsOutput engine arguments n).1.isOk = true ↔
      Arguments.standardCount 1 ≤ engine.settings.limits.maxTurns := by
  rw [evaluateConstantsOutput, Arguments.boundedCount_absent absent]
  by_cases beyond : engine.settings.limits.maxTurns < Arguments.standardCount 1
  · rw [if_pos beyond]
    exact iff_of_false Bool.false_ne_true (Nat.not_le.mpr beyond)
  · rw [if_neg beyond]
    exact iff_of_true rfl (Nat.le_of_not_lt beyond)

theorem readMode_absent (absent : arguments.isPresent "mode" = false) :
    readMode arguments = .ok .add := by
  have standard : SynthesisMode.read "add" = .ok .add := by decide +kernel
  rw [readMode, Arguments.text_absent absent, standard]

theorem synthesizeOutput_isOk (absent : arguments.isPresent "mode" = false) (n : Nat) :
    (synthesizeOutput engine arguments n).1.isOk = true := by
  rw [synthesizeOutput, readMode_absent absent]
  rfl

theorem verifyOutput_isOk {n : Nat}
    (nonempty : arguments.vector "values" engine.settings.limits.maxVectorLength ≠ []) :
    (verifyOutput engine arguments n).1.isOk = true := by
  obtain ⟨first, rest, values⟩ := List.exists_cons_of_ne_nil nonempty
  rw [verifyOutput, values]
  rfl

theorem performRun_isOk_iff (bare : run.Bare arguments)
    (nonempty : arguments.vector "vector" engine.settings.limits.maxVectorLength ≠ []) (n : Nat) :
    (performRun engine arguments n).1.1.isOk = true ↔
      Arguments.standardCount engine.settings.limits.defaultDepth ≤ maxDepthOf engine ∧
        Arguments.standardCount engine.settings.limits.defaultGenerations ≤
          engine.settings.limits.maxGenerations := by
  have mode := readMode_absent (bare.others "mode" (by decide))
  have depth := Arguments.count_absent (bare.others "depth" (by decide))
  have generations := Arguments.boundedCount_absent (bare.others "generations" (by decide))
  by_cases beyond : engine.settings.limits.maxGenerations <
    Arguments.standardCount engine.settings.limits.defaultGenerations
  · rw [performRun, readRunOptions, mode, depth, generations, if_pos beyond]
    exact iff_of_false Bool.false_ne_true fun fits => Nat.not_lt.mpr fits.2 beyond
  · have chosen : readRunOptions engine.settings.limits arguments = .ok
        ⟨Arguments.standardCount engine.settings.limits.defaultDepth, .add,
          Arguments.standardCount engine.settings.limits.defaultGenerations⟩ := by
      rw [readRunOptions, mode, depth, generations, if_neg beyond]
      rfl
    rw [(performRun_decided chosen nonempty n).isOk_iff, and_iff_left (Nat.le_of_not_lt beyond)]

/-- An action without optional arguments succeeds exactly if its own defaults fit. -/
theorem perform_isOk_iff (configured : engine.Configured) (bare : action.Bare arguments) (n : Nat) :
    (action.perform engine arguments n).1.1.isOk = true ↔ action.DefaultsFit engine.settings
      (arguments.vector "vector" engine.settings.limits.maxVectorLength).length := by
  have room := (Settings.consistent_of_accepted configured.accepted).vectorLength
  have depth : maxDepthOf engine = engine.settings.maxDepth :=
    congrArg NumericSettings.maxDepth configured.shared
  cases action with
  | extend =>
    have decided := performExtend_decided engine arguments
    rw [depthOf, Arguments.count_absent (bare.others "depth" (by decide))] at decided
    rw [DefaultsFit, ← depth]
    exact decided.isOk_iff
  | extendRecursive =>
    have decided := performExtendRecursive_decided engine arguments
    rw [depthOf, Arguments.count_absent (bare.others "depth" (by decide))] at decided
    rw [DefaultsFit, ← depth]
    exact decided.isOk_iff
  | run =>
    rw [DefaultsFit, ← depth]
    exact performRun_isOk_iff bare (bare.vector_ne_nil (by decide) (by decide) room) n
  | elevate =>
    rw [DefaultsFit, ← Dimension.elevate_isOk_iff (bare.vector_ne_nil (by decide) (by decide) room)]
    exact resize_isOk_iff (bare.others "target" (by decide))
  | reduce =>
    rw [DefaultsFit, ← Dimension.reduce_isOk_iff (Arguments.standardCount_pos _)]
    exact resize_isOk_iff (bare.others "target" (by decide))
  | evaluateConstants => exact evaluateConstantsOutput_isOk_iff (bare.others "turns" (by decide)) n
  | synthesize =>
    exact iff_of_true (synthesizeOutput_isOk (bare.others "mode" (by decide)) n) trivial
  | verify =>
    have values : arguments.vector "values" engine.settings.limits.maxVectorLength ≠ [] :=
      bare.vector_ne_nil (by decide) (by decide) room
    exact iff_of_true (verifyOutput_isOk values) trivial
  | contract | cancelDuals | reset | listConstants => exact iff_of_true rfl trivial

end Action

namespace Dispatcher

variable {dispatcher : Dispatcher} {action : Action} {arguments : Arguments}

theorem resolve_bare (bare : action.Bare arguments) :
    resolve ⟨action.name, arguments⟩ = .ok action := by
  have known : Action.ofName? action.name = some action := by cases action <;> decide
  have complete : action.missing? arguments = none := by
    rw [Action.missing?, Option.map_eq_none_iff, List.find?_eq_none]
    intro name required
    rw [bare.given name required]
    exact Bool.false_ne_true
  rw [resolve, known]
  simp only [complete]

theorem dispatch_success {request : Request} (resolved : resolve request = .ok action) (n : Nat) :
    (dispatcher.dispatch request n).1.1.success =
      (action.perform dispatcher.engine request.arguments n).1.1.isOk := by
  rw [(dispatch_resolved resolved n).1]
  cases (action.perform dispatcher.engine request.arguments n).1.1 with
  | error e => rfl
  | ok output => rfl

/-- A dispatcher that has answered requests with a new engine of some settings. -/
inductive Serves (settings : Settings Float) : Dispatcher → Prop where
  | start {engine : Engine Float} (built : Engine.new settings = .ok engine)
    (metrics : Option Metrics) : Serves settings (.new engine metrics)
  | next {dispatcher : Dispatcher} (serves : Serves settings dispatcher) (request : Request)
    (n : Nat) : Serves settings (dispatcher.dispatch request n).1.2

theorem Serves.configured {settings : Settings Float} (serves : Serves settings dispatcher) :
    dispatcher.engine.settings = settings ∧ dispatcher.engine.Configured := by
  induction serves with
  | start built metrics => exact Engine.new_configured built
  | @next dispatcher serves request n ih =>
    have same := dispatch_sameSettings dispatcher request n
    exact ⟨same.1.trans ih.1, ih.2.of_same same⟩

/-- At any time, a request without optional arguments succeeds exactly if the defaults of its action
fit. Where rounding changes none of them, only a greatest depth of zero is in the way. -/
theorem bare_success_iff {settings : Settings Float} (serves : Serves settings dispatcher)
    (bare : action.Bare arguments) (n : Nat) :
    let length := (arguments.vector "vector" settings.limits.maxVectorLength).length
    let response := (dispatcher.dispatch ⟨action.name, arguments⟩ n).1.1
    (response.success = true ↔ action.DefaultsFit settings length) ∧
    (settings.limits.defaultDepth ≤ 2 ^ 53 → settings.limits.defaultGenerations ≤ 2 ^ 53 →
      length * 2 ≤ 2 ^ 53 →
      (response.success = true ↔ (action ∈ Action.deepening → 0 < settings.maxDepth))) := by
  obtain ⟨rfl, configured⟩ := serves.configured
  have consistent := Settings.consistent_of_accepted configured.accepted
  have fits := Action.perform_isOk_iff configured bare n
  rw [← dispatch_success (resolve_bare bare)] at fits
  refine ⟨fits, fun depth generations held => fits.trans ?_⟩
  refine Action.defaultsFit_iff consistent (fun resizing => ?_) (arguments.vector_length_le _ _)
    depth generations held
  have required : "vector" ∈ action.required := by
    simp only [List.mem_cons, List.not_mem_nil, or_false] at resizing
    obtain rfl | rfl := resizing
    · decide
    · decide
  exact List.length_pos_iff.mpr (bare.vector_ne_nil required (by decide) consistent.vectorLength)

def vectorOnly : Arguments := [("vector", .arr [.int 3, .int 4])]

theorem bare_success_iff_standard : Action.run.Bare vectorOnly ∧
    ∃ engine, Engine.new Settings.standard = .ok engine ∧
      (dispatch (.new engine none) ⟨"engine.run", vectorOnly⟩ 1).1.1.success = true := by
  obtain ⟨engine, built⟩ := Engine.exists_new
    (Option.isNone_iff_eq_none.mp (by decide +kernel) : Settings.standard.fault? = none)
  have bare : Action.run.Bare vectorOnly := by
    refine ⟨by decide, fun name required _ => ?_, by decide⟩
    obtain rfl := List.mem_singleton.mp required
    exact ⟨_, _, rfl⟩
  have succeeds := (bare_success_iff (.start built none) bare 1).2 (by decide) (by decide) (by decide)
  exact ⟨bare, engine, built, succeeds.mpr fun _ => by decide⟩

/-- Settings that permit no depth but zero, also by default. -/
def depthless : Settings Float :=
  { Settings.standard with
    maxDepth := 0, limits := { RequestLimits.standard with defaultDepth := 0 } }

def originOnly : Arguments := [("origin", .int 1)]

/-- The default depth of accepted settings can be refused. -/
theorem depthless_refuses_default : Action.extend.Bare originOnly ∧ depthless.fault? = none ∧
    ∃ engine, Engine.new depthless = .ok engine ∧
      (dispatch (.new engine none) ⟨"seed.extend", originOnly⟩ 1).1.1.error =
        some "Seed error: Extension depth 1 exceeds maximum 0" := by
  have accepted : depthless.fault? = none := Option.isNone_iff_eq_none.mp (by decide +kernel)
  have bare : Action.extend.Bare originOnly := by
    refine ⟨by decide, fun name required sequence => ?_, by decide⟩
    obtain rfl := List.mem_singleton.mp required
    exact absurd sequence (by decide)
  obtain ⟨engine, built⟩ := Engine.exists_new accepted
  obtain ⟨own, configured⟩ := Engine.new_configured built
  have greatest : Action.maxDepthOf engine = 0 := by
    rw [Action.maxDepthOf, configured.shared, own]
    rfl
  have depth : Action.depthOf engine originOnly = 1 := by
    rw [Action.depthOf, own]
    decide +kernel
  have decided := Action.performExtend_decided engine originOnly
  rw [Action.DecidedByDepth, greatest, depth] at decided
  obtain ⟨-, refused⟩ | ⟨within, -⟩ := decided
  · have failed : (Action.extend.perform (new engine none).engine originOnly 1).1.1 =
      .error (.range (.depthExceeded 1 0)) := congrArg Prod.fst refused
    refine ⟨bare, accepted, engine, built, ?_⟩
    obtain ⟨response, -⟩ := @dispatch_resolved (new engine none) _ _ (resolve_bare bare) 1
    rw [failed] at response
    exact congrArg Response.error response
  · contradiction

end Dispatcher
end FormulaLab
