import FormulaLab.Proofs.Action.Atomicity
import FormulaLab.Proofs.Engine.Configured
import FormulaLab.Proofs.Engine.Phases
import FormulaLab.Proofs.Population.Lineage

/-! A run does not depend on the past of its engine. What an engine has been used for leaves expansions,
rounds and used ids behind, and a later run shows no more of it than other labels. -/

namespace FormulaLab

open Scalar (NumericEquality)

namespace Engine

section Continues

variable {α : Type} [Scalar α] {fresh engine : Engine α}

theorem initialPopulation_advances (index : Nat) (syntheses : List (Analysis α))
    (selector : Selector α) : selector.Advances (initialPopulation index syntheses selector).2 := by
  induction syntheses generalizing index selector with
  | nil => exact .refl selector
  | cons synthesis rest ih =>
    have made := Selector.candidate_advances selector synthesis (Fitness.initial synthesis)
    exact made.trans (ih (index + 1) _)

theorem evolutionPhase_advances (engine : Engine α) (syntheses : List (Analysis α))
    (generations n : Nat) : ∃ selector, engine.selector.Advances selector ∧
      (engine.evolutionPhase syntheses generations n).1.2 = { engine with selector } := by
  have populated := initialPopulation_advances 0 syntheses engine.selector
  have evolved := Selector.evolve_advances (goldenMutator engine.settings.precision) generations
    (initialPopulation 0 syntheses engine.selector).1 (initialPopulation 0 syntheses engine.selector).2 n
  exact ⟨_, populated.trans evolved, rfl⟩

/-- A run leaves the expansions that it asked for and a later state of the selector, if anything. -/
theorem run_engine [NumberText α] (engine : Engine α) (vector : List α) (options : RunOptions)
    (n : Nat) : (engine.run vector options n).1.2 = engine ∨
      ∃ selector, engine.selector.Advances selector ∧
        (engine.run vector options n).1.2 =
          { engine with
            expander := (Expander.extendAll options.depth vector engine.expander).2, selector } := by
  have counted := numericPhase_engine engine vector options.depth
  unfold run
  split
  · exact .inl rfl
  · generalize engine.numericPhase vector options.depth = x at counted
    obtain ⟨answer, next⟩ := x
    simp only at counted
    subst counted
    refine .inr ?_
    cases answer with
    | error e => exact ⟨engine.selector, .refl _, rfl⟩
    | ok numeric =>
      simp only [bind, StateT.bind]
      generalize formulaPhase _ vector options.mode n = y
      obtain ⟨formed, m⟩ := y
      cases formed with
      | error e => exact ⟨engine.selector, .refl _, rfl⟩
      | ok formula =>
        obtain ⟨selector, advances, evolved⟩ := evolutionPhase_advances
          { engine with expander := (Expander.extendAll options.depth vector engine.expander).2 }
          formula.syntheses options.generations m
        exact ⟨selector, advances, evolved⟩

variable [NumericEquality α]

/-- What a used engine has kept of the new one. -/
structure Continues (fresh engine : Engine α) : Prop where
  rules : fresh.SameRules engine
  selector : fresh.selector.Advances engine.selector
  expander : engine.expander.settings = fresh.expander.settings
  remembers : ∃ keys, engine.expander.Remembers keys

theorem Continues.extended (continues : fresh.Continues engine) (call : Expander.Call α) :
    fresh.Continues { engine with expander := (engine.expander.perform call).2 } := by
  obtain ⟨keys, remembers⟩ := continues.remembers
  obtain ⟨same, after⟩ := remembers.perform call
  exact ⟨⟨continues.rules.settings, continues.rules.rulebook⟩, continues.selector,
    same.trans continues.expander, _, after⟩

theorem Continues.run [NumberText α] (continues : fresh.Continues engine) (vector : List α)
    (options : RunOptions) (n : Nat) : fresh.Continues (engine.run vector options n).1.2 := by
  rcases run_engine engine vector options n with same | ⟨selector, advances, used⟩
  · rw [same]
    exact continues
  · obtain ⟨keys, remembers⟩ := continues.remembers
    obtain ⟨same, after⟩ := remembers.after_extendAll vector options.depth
    rw [used]
    exact ⟨⟨continues.rules.settings, continues.rules.rulebook⟩, continues.selector.trans advances,
      same.trans continues.expander, after⟩

omit [NumericEquality α] in
theorem Continues.reset (continues : fresh.Continues engine) : fresh.Continues engine.reset where
  rules := ⟨continues.rules.settings, continues.rules.rulebook⟩
  selector := continues.selector.trans ⟨rfl, Nat.le_refl _⟩
  expander := continues.expander
  remembers := ⟨[], Expander.remembers_nil _⟩

end Continues

/-- Engines that a new one becomes by runs, extensions, resets and requests of any kind, whether these
succeed or fail. -/
inductive Reached (fresh : Engine Float) : Engine Float → Prop where
  | new : Reached fresh fresh
  | run {engine : Engine Float} (vector : List Float) (options : RunOptions) (n : Nat) :
      Reached fresh engine → Reached fresh (engine.run vector options n).1.2
  | extend {engine : Engine Float} (origin : Float) (depth : Nat) : Reached fresh engine →
      Reached fresh { engine with expander := (engine.expander.extend origin depth).2 }
  | extendRecursive {engine : Engine Float} (origin : Float) (depth : Nat) : Reached fresh engine →
      Reached fresh { engine with expander := (engine.expander.extendRecursive origin depth).2 }
  | reset {engine : Engine Float} : Reached fresh engine → Reached fresh engine.reset
  | request {engine : Engine Float} (action : Action) (arguments : Arguments) (n : Nat) :
      Reached fresh engine → Reached fresh (action.perform engine arguments n).1.2

variable {fresh engine : Engine Float}

theorem performExtend_engine (engine : Engine Float) (arguments : Arguments) :
    (Action.performExtend engine arguments).2 =
      { engine with expander := (engine.expander.perform (.extend (arguments.number "origin" 0)
        (Action.depthOf engine arguments))).2 } := by
  unfold Action.performExtend
  simp only [Expander.perform, Action.depthOf]
  generalize engine.expander.extend _ _ = extended
  obtain ⟨answer, expander⟩ := extended
  cases answer <;> rfl

theorem performExtendRecursive_engine (engine : Engine Float) (arguments : Arguments) :
    (Action.performExtendRecursive engine arguments).2 =
      { engine with expander := (engine.expander.perform (.extendRecursive
        (arguments.number "origin" 0) (Action.depthOf engine arguments))).2 } := by
  unfold Action.performExtendRecursive
  simp only [Expander.perform, Action.depthOf]
  generalize engine.expander.extendRecursive _ _ = extended
  obtain ⟨answer, expander⟩ := extended
  cases answer <;> rfl

theorem performRun_engine (engine : Engine Float) (arguments : Arguments) (n : Nat) :
    (Action.performRun engine arguments n).1.2 = engine ∨ ∃ vector options,
      (Action.performRun engine arguments n).1.2 = (engine.run vector options n).1.2 := by
  unfold Action.performRun
  cases chosen : Action.readRunOptions engine.settings.limits arguments with
  | error refusal => exact .inl rfl
  | ok options =>
    refine .inr ⟨arguments.vector "vector" engine.settings.limits.maxVectorLength, options, ?_⟩
    simp only [bind, StateT.bind]
    generalize engine.run _ options n = outcome
    obtain ⟨⟨result, next⟩, m⟩ := outcome
    cases result <;> rfl

theorem Continues.perform (continues : fresh.Continues engine) (action : Action)
    (arguments : Arguments) (n : Nat) : fresh.Continues (action.perform engine arguments n).1.2 := by
  by_cases changes : action ∈ Action.changing
  · simp only [Action.changing, List.mem_cons, List.not_mem_nil, or_false] at changes
    rcases changes with rfl | rfl | rfl | rfl
    · change fresh.Continues (Action.performExtend engine arguments).2
      rw [performExtend_engine]
      exact continues.extended _
    · change fresh.Continues (Action.performExtendRecursive engine arguments).2
      rw [performExtendRecursive_engine]
      exact continues.extended _
    · change fresh.Continues (Action.performRun engine arguments n).1.2
      rcases performRun_engine engine arguments n with same | ⟨vector, options, ran⟩
      · rw [same]
        exact continues
      · rw [ran]
        exact continues.run vector options n
    · exact continues.reset
  · rw [Action.perform_of_not_changing changes]
    exact continues

theorem Reached.continues (start : fresh.Continues fresh) (reached : fresh.Reached engine) :
    fresh.Continues engine := by
  induction reached with
  | new => exact start
  | run vector options n _ ih => exact ih.run vector options n
  | extend origin depth _ ih => exact ih.extended (.extend origin depth)
  | extendRecursive origin depth _ ih => exact ih.extended (.extendRecursive origin depth)
  | reset _ ih => exact ih.reset
  | request action arguments n _ ih => exact ih.perform action arguments n

theorem new_continues {settings : Settings Float} (built : Engine.new settings = .ok fresh) :
    fresh.Continues fresh ∧ fresh.selector.history = [] ∧ fresh.expander.memory = [] ∧
      fresh.rulebook = .standard settings.precision ∧
      Selector.standard settings.selection = .ok fresh.selector := by
  unfold Engine.new at built
  split at built
  · contradiction
  · split at built
    · contradiction
    next selector made =>
      cases built
      obtain ⟨criteria, constraints, _, _, rfl⟩ := Selector.standard_made made
      exact ⟨⟨⟨rfl, rfl⟩, .refl _, rfl, [], Expander.remembers_nil _⟩, rfl, rfl, rfl, made⟩

/-- Runs of a new engine and of one that it has become, from any two counters of ids. -/
theorem run_continued {settings : Settings Float} (built : Engine.new settings = .ok fresh)
    (continues : fresh.Continues engine) {R : Expansion Float → Expansion Float → Prop}
    {vector : List Float} {options : RunOptions}
    (extended : Agree (List.Forall₂ R) (Expander.extendAll options.depth vector fresh.expander).1
      (Expander.extendAll options.depth vector engine.expander).1) (m n : Nat) :
    ∃ labels : Relabeling, Function.Injective labels.names ∧
      engine.selector.nextId = fresh.selector.nextId + labels.candidates ∧
      labels.generations = engine.selector.history.length ∧
      Agree (RunReport.Matches labels R) (fresh.run vector options m).1.1
        (engine.run vector options n).1.1 := by
  obtain ⟨names, distinct, aligned⟩ := exists_renaming m n
  obtain ⟨_, unused, _, rules, made⟩ := new_continues built
  let labels : Relabeling := {
    names
    candidates := engine.selector.nextId - fresh.selector.nextId
    generations := engine.selector.history.length }
  have later : engine.selector.nextId = fresh.selector.nextId + labels.candidates :=
    (Nat.add_sub_cancel' continues.selector.onwards).symm
  have shifted : fresh.selector.Shifted labels fresh.selector engine.selector := by
    constructor
    · rfl
    · exact continues.selector.same
    · exact later
    · rw [unused]
      exact (Nat.zero_add _).symm
  have respects : fresh.rulebook.Respects (Named labels.names) (· = ·) := by
    rw [rules]
    exact Rulebook.standard_respects _
  refine ⟨labels, distinct, later, rfl, ?_⟩
  exact (run_relabel continues.rules respects (Selector.standard_blind made distinct) shifted extended
    m n aligned).1

/-- A run does not depend on the past of its engine. On any engine that a new one can become it fails
or reports as on the new one, up to node ids, one shift of the candidate ids, the number of earlier
rounds, and the sign of zero in the origins of expansions. After a reset only node ids and candidate
ids differ. -/
theorem run_independent_of_past {settings : Settings Float} (accepted : settings.fault? = none) :
    ∃ fresh, Engine.new settings = .ok fresh ∧ ∀ engine, fresh.Reached engine →
      ∀ (vector : List Float) (options : RunOptions) (m n : Nat),
        (∃ labels : Relabeling, Function.Injective labels.names ∧
          engine.selector.nextId = fresh.selector.nextId + labels.candidates ∧
          labels.generations = engine.selector.history.length ∧
          Agree (RunReport.Matches labels Expansion.Alike) (fresh.run vector options m).1.1
            (engine.run vector options n).1.1) ∧
        ∃ labels : Relabeling, Function.Injective labels.names ∧
          engine.selector.nextId = fresh.selector.nextId + labels.candidates ∧
          labels.generations = 0 ∧
          Agree (RunReport.Matches labels (· = ·)) (fresh.run vector options m).1.1
            (engine.reset.run vector options n).1.1 := by
  obtain ⟨fresh, built⟩ := exists_new accepted
  refine ⟨fresh, built, fun engine reached vector options m n => ?_⟩
  obtain ⟨start, _, empty, _⟩ := new_continues built
  have continues := reached.continues start
  constructor
  · obtain ⟨keys, remembers⟩ := start.remembers
    obtain ⟨keys', remembers'⟩ := continues.remembers
    exact run_continued built continues
      (remembers.extendAll_agree remembers' continues.expander vector options.depth) m n
  · have forgotten : engine.reset.expander = fresh.expander := by
      have fresh_eq : fresh.expander = ⟨fresh.expander.settings, []⟩ := by rw [← empty]
      rw [fresh_eq, ← continues.expander]
      rfl
    refine run_continued built continues.reset ?_ m n
    rw [forgotten]
    cases (Expander.extendAll options.depth vector fresh.expander).1 with
    | error e => exact .error e
    | ok expansions => exact .ok (List.forall₂_same.mpr fun _ _ => rfl)

/-- A zero that is remembered under its other sign, and ids and rounds that are used up. -/
theorem run_independent_of_past_zero :
    (Settings.standard : Settings Float).fault? = none ∧
      ∃ fresh : Engine Float, Engine.new Settings.standard = .ok fresh ∧
        let used := (fresh.run [0, 2] {} 1).1.2
        ∃ (labels : Relabeling) (report report' : RunReport Float), Function.Injective labels.names ∧
          labels.generations = used.selector.history.length ∧
          (fresh.run [-0, 2] {} 1).1.1 = .ok report ∧ (used.run [-0, 2] {} 100).1.1 = .ok report' ∧
          report.Matches labels Expansion.Alike report' := by
  have accepted : (Settings.standard : Settings Float).fault? = none := by decide +kernel
  obtain ⟨fresh, built, independent⟩ := run_independent_of_past accepted
  refine ⟨accepted, fresh, built, ?_⟩
  intro used
  obtain ⟨⟨labels, distinct, -, rounds, agree⟩, -⟩ :=
    independent used (.run [0, 2] {} 1 .new) [-0, 2] {} 1 100
  have within : 3 ≤ fresh.expander.settings.maxDepth := by
    obtain ⟨same, configured⟩ := new_configured built
    rw [configured.shared, same]
    decide
  have succeeds : ∃ report next, (fresh.run [-0, 2] {} 1).1 = (.ok report, next) ∧
      fresh.SameSettings next := run_within (List.cons_ne_nil _ _) within 1
  obtain ⟨report, next, ran, -⟩ := succeeds
  rw [ran] at agree
  generalize outcome : (used.run [-0, 2] {} 100).1.1 = answer at agree
  cases agree with
  | ok alike => exact ⟨labels, report, _, distinct, rounds, congrArg Prod.fst ran, rfl, alike⟩

end Engine
end FormulaLab
