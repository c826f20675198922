import FormulaLab.Proofs.Action.Defaults
import FormulaLab.Proofs.Action.Tasks
import FormulaLab.Proofs.Engine.Growth
import FormulaLab.Proofs.Engine.Independence

/-! Requests do bounded work. Whatever a request asks for, its task respects the limits of the settings
once it is read, and a task within the limits leaves and produces no more than they allow. -/

namespace FormulaLab

namespace Arguments

variable {arguments : Arguments} {name : String} {maxLength standard limit n : Nat}

/-- A memory can hold the arrays among the arguments: each item takes two of its places at least, and
the places can be counted. -/
def Storable (arguments : Arguments) : Prop :=
  ∀ name items, arguments.get? name = some (.arr items) → items.length * 2 ≤ maxCount

/-- The vectors that components may be given. -/
structure Admits (maxLength : Nat) (vector : List Float) : Prop where
  length : vector.length ≤ maxLength
  finite : ∀ x ∈ vector, x.isFinite

theorem isFinite_getD_finite? (item : Json) : ((finite? item).getD 0).isFinite := by
  cases read : finite? item with
  | none => decide +kernel
  | some x =>
    rw [finite?] at read
    exact (Option.filter_eq_some_iff.mp read).2

/-- Whatever stands in an array, components are given finite numbers only. -/
theorem vector_admits (arguments : Arguments) (name : String) (maxLength : Nat) :
    Admits maxLength (arguments.vector name maxLength) where
  length := vector_length_le arguments name maxLength
  finite := by
    unfold vector
    split
    · intro x member
      obtain ⟨item, -, rfl⟩ := List.mem_map.mp member
      exact isFinite_getD_finite? item
    · intro x member
      exact absurd member List.not_mem_nil

theorem Storable.vector (storable : arguments.Storable) (name : String) (maxLength : Nat) :
    (arguments.vector name maxLength).length * 2 ≤ maxCount := by
  unfold Arguments.vector
  split
  next items given =>
    have held := storable name items given
    rw [List.length_map, List.length_take]
    omega
  · exact Nat.zero_le _

theorem boundedCount_le (read : arguments.boundedCount name standard limit = .ok n) : n ≤ limit := by
  rw [boundedCount] at read
  split at read
  · contradiction
  next within =>
    cases read
    exact Nat.le_of_not_lt within

end Arguments

namespace Task

/-- The vectors that components are given. -/
def vectors : Task → List (List Float)
  | contract values | cancelDuals values | verify values => [values]
  | elevate vector _ | reduce vector _ | run vector _ => [vector]
  | extend .. | extendRecursive .. | evaluateConstants _ | synthesize .. | reset | listConstants => []

/-- Dimensions into which a vector is elevated. A run elevates its vector, too. -/
def elevations : Task → List Nat
  | elevate _ target => [target]
  | run vector _ => [vector.length * 2]
  | _ => []

/-- Rounds of selection at most. -/
def rounds : Task → Nat
  | run _ options => options.generations
  | _ => 0

/-- A task that respects the limits. -/
structure Within (limits : RequestLimits) (task : Task) : Prop where
  vectors : ∀ vector ∈ task.vectors, Arguments.Admits limits.maxVectorLength vector
  elevations : ∀ target ∈ task.elevations, target ≤ limits.maxTargetDimension
  rounds : task.rounds ≤ limits.maxGenerations

end Task

namespace Action

variable {settings : Settings Float} {limits : RequestLimits} {arguments : Arguments} {task : Task}

theorem map_mapError_eq_ok {ε ε' β γ : Type} {x : Except ε β} {f : ε → ε'} {g : β → γ} {c : γ}
    (read : (x.mapError f).map g = .ok c) : ∃ b, x = .ok b ∧ g b = c := by
  cases x with
  | error e => contradiction
  | ok b => exact ⟨b, rfl, Except.ok.inj read⟩

theorem map_eq_ok {ε β γ : Type} {x : Except ε β} {g : β → γ} {c : γ} (read : x.map g = .ok c) :
    ∃ b, x = .ok b ∧ g b = c := by
  cases x with
  | error e => contradiction
  | ok b => exact ⟨b, rfl, Except.ok.inj read⟩

theorem readRunOptions_generations {options : RunOptions}
    (read : readRunOptions limits arguments = .ok options) :
    options.generations ≤ limits.maxGenerations := by
  unfold readRunOptions at read
  cases mode : readMode arguments with
  | error e =>
    rw [mode] at read
    contradiction
  | ok mode' =>
    rw [mode] at read
    obtain ⟨generations, counted, rfl⟩ := map_mapError_eq_ok read
    exact Arguments.boundedCount_le counted

/-- Whatever the arguments are, a task that is read from them respects the limits. -/
theorem task?_within (consistent : settings.Consistent) (storable : arguments.Storable) (action : Action)
    (read : action.task? settings.limits arguments = .ok task) : task.Within settings.limits := by
  have admits (name : String) := arguments.vector_admits name settings.limits.maxVectorLength
  cases action with
  | extend | extendRecursive | reset | listConstants =>
    cases read
    constructor <;> simp [Task.vectors, Task.elevations, Task.rounds]
  | contract | cancelDuals | verify =>
    cases read
    constructor <;> simp [Task.vectors, Task.elevations, Task.rounds, admits]
  | elevate =>
    obtain ⟨target, counted, rfl⟩ := map_mapError_eq_ok read
    have within := Arguments.boundedCount_le counted
    constructor <;> simp [Task.vectors, Task.elevations, Task.rounds, admits, within]
  | reduce =>
    obtain ⟨target, counted, rfl⟩ := map_mapError_eq_ok read
    constructor <;> simp [Task.vectors, Task.elevations, Task.rounds, admits]
  | evaluateConstants =>
    obtain ⟨turns, counted, rfl⟩ := map_mapError_eq_ok read
    constructor <;> simp [Task.vectors, Task.elevations, Task.rounds]
  | synthesize =>
    obtain ⟨mode, known, rfl⟩ := map_eq_ok read
    constructor <;> simp [Task.vectors, Task.elevations, Task.rounds]
  | run =>
    obtain ⟨options, chosen, rfl⟩ := map_eq_ok read
    have generations := readRunOptions_generations chosen
    -- Accepted settings leave room for twice the longest vector, as far as counts go.
    have doubled : (arguments.vector "vector" settings.limits.maxVectorLength).length * 2 ≤
        settings.limits.maxTargetDimension := by
      have length := (admits "vector").length
      have held := storable.vector "vector" settings.limits.maxVectorLength
      have room := consistent.doubled
      omega
    constructor <;> simp [Task.vectors, Task.elevations, Task.rounds, admits, doubled, generations]

end Action

theorem Request.task?_within {settings : Settings Float} {request : Request} {task : Task}
    (consistent : settings.Consistent) (storable : request.arguments.Storable)
    (read : request.task? settings.limits = .ok task) : task.Within settings.limits := by
  unfold Request.task? at read
  split at read
  · contradiction
  next action _ => exact Action.task?_within consistent storable action read

namespace Answer

/-- The expansions that an answer is made of. -/
def expansions : Answer → List (Expansion Float)
  | expansion _ x => [x]
  | ladder _ levels => levels
  | report r => r.numeric.expansions
  | _ => []

/-- The elevated vectors that an answer is made of. -/
def elevations : Answer → List (List Float)
  | elevated _ vector _ => [vector]
  | report r => [r.numeric.elevated]
  | _ => []

end Answer

namespace Task

variable {settings : Settings Float} {engine : Engine Float} {task : Task}

/-- What comes of a task and what it leaves, held to the limits of the settings. -/
structure Bounded (settings : Settings Float) (before : Engine Float)
    (outcome : Except (Failure Float) Answer × Engine Float) : Prop where
  history : outcome.2.selector.history.length ≤
    before.selector.history.length + settings.limits.maxGenerations
  expander : before.expander.Adds (max settings.limits.maxVectorLength settings.maxDepth)
    (outcome.1.map Answer.expansions, outcome.2.expander)
  elevations : ∀ answer, outcome.1 = .ok answer →
    ∀ vector ∈ answer.elevations, vector.length ≤ settings.limits.maxTargetDimension

theorem Bounded.unchanged (short : engine.expander.Short) {answer : Except (Failure Float) Answer}
    (expansions : ∀ a, answer = .ok a → a.expansions = [])
    (elevations : ∀ a, answer = .ok a →
      ∀ vector ∈ a.elevations, vector.length ≤ settings.limits.maxTargetDimension) :
    Bounded settings engine (answer, engine) where
  history := Nat.le_add_right _ _
  expander := by
    refine (Expander.Adds.none short fun xs given => ?_).mono (Nat.zero_le _)
    obtain ⟨a, done, rfl⟩ := Action.map_eq_ok given
    exact expansions a done
  elevations := elevations

/-- Tasks that leave the engine as it was and make neither an expansion nor an elevated vector. -/
theorem Bounded.plain (short : engine.expander.Short) (answer : Answer)
    (expansions : answer.expansions = []) (elevations : answer.elevations = []) :
    Bounded settings engine (.ok answer, engine) := by
  refine .unchanged short ?_ ?_
  · rintro _ ⟨⟩
    exact expansions
  · rintro _ ⟨⟩
    rw [elevations]
    exact List.forall_mem_nil _

theorem Bounded.refused (short : engine.expander.Short) (e : Failure Float) :
    Bounded settings engine (.error e, engine) := .unchanged short nofun nofun

section Extended

variable {ε : Type} {expander : Expander Float} {n : Nat}
  (few : n ≤ max settings.limits.maxVectorLength settings.maxDepth)
include few

theorem Bounded.failed {given : Except ε (List (Expansion Float))}
    (adds : engine.expander.Adds n (given, expander)) (e : Failure Float) :
    Bounded settings engine (.error e, { engine with expander }) where
  history := Nat.le_add_right _ _
  expander := (adds.failed e).mono few
  elevations := fun _ done => nomatch done

theorem Bounded.extended {answer : Answer}
    (adds : engine.expander.Adds (ε := ε) n (.ok answer.expansions, expander))
    (elevations : answer.elevations = []) :
    Bounded settings engine (.ok answer, { engine with expander }) where
  history := Nat.le_add_right _ _
  expander := adds.succeeded.mono few
  elevations := by
    rintro _ ⟨⟩
    rw [elevations]
    exact List.forall_mem_nil _

end Extended

/-- A task within the limits is bounded by them. -/
theorem carryOut_bounded (consistent : settings.Consistent) (short : engine.expander.Short)
    (shared : engine.expander.settings.maxDepth = settings.maxDepth)
    (within : task.Within settings.limits) (n : Nat) :
    Bounded settings engine (task.carryOut engine n).1 := by
  have room := consistent.vectorLength
  cases task with
  | extend origin depth =>
    have adds := short.extend origin depth
    simp only [carryOut, Expander.perform] at adds ⊢
    generalize engine.expander.extend origin depth = extended at adds ⊢
    obtain ⟨answer, expander⟩ := extended
    cases answer with
    | error e => exact .failed (by omega) adds _
    | ok x => exact .extended (by omega) adds rfl
  | extendRecursive origin depth =>
    have adds := short.extendRecursive origin depth
    simp only [carryOut]
    generalize engine.expander.extendRecursive origin depth = extended at adds ⊢
    obtain ⟨answer, expander⟩ := extended
    cases answer with
    | error e => exact .failed (by omega) adds _
    | ok levels => exact .extended (by omega) adds rfl
  | contract | cancelDuals | listConstants | evaluateConstants | synthesize =>
    exact .plain short _ rfl rfl
  | reset =>
    refine ⟨Nat.zero_le _, ⟨rfl, Nat.zero_le _, .clear _, ?_⟩, ?_⟩
    · rintro _ ⟨⟩
      exact List.forall_mem_nil _
    · rintro _ ⟨⟩
      exact List.forall_mem_nil _
  | elevate vector target =>
    simp only [carryOut]
    cases raised : Dimension.elevate vector target with
    | error e => exact .refused short _
    | ok elevated =>
      refine .unchanged short ?_ ?_
      · rintro _ ⟨⟩
        rfl
      · rintro _ ⟨⟩
        rw [Answer.elevations, List.forall_mem_singleton, Dimension.elevate_length raised]
        exact within.elevations target (List.mem_singleton_self target)
  | reduce vector target =>
    simp only [carryOut]
    cases Dimension.reduce vector target with
    | error e => exact .refused short _
    | ok reduced => exact .plain short _ rfl rfl
  | verify values =>
    simp only [carryOut, bind, StateT.bind]
    generalize Action.sumOfLeaves? values n = sum
    obtain ⟨formula, m⟩ := sum
    cases formula with
    | none => exact .refused short _
    | some formula => exact .plain short (.verified formula) rfl rfl
  | run vector options =>
    obtain ⟨history, adds, elevated⟩ := Engine.run_growth short vector options n
    have admitted := within.vectors vector (List.mem_singleton_self vector)
    have room := within.elevations _ (List.mem_singleton_self _)
    have generations : options.generations ≤ settings.limits.maxGenerations := within.rounds
    have length := admitted.length
    simp only [carryOut, bind, StateT.bind]
    generalize engine.run vector options n = ran at history adds elevated ⊢
    obtain ⟨⟨answer, next⟩, m⟩ := ran
    dsimp only at history adds elevated
    have made : engine.expander.Adds vector.length
        ((answer.map Answer.report).map Answer.expansions, next.expander) := by
      cases answer <;> exact adds
    refine ⟨Nat.le_trans history (by omega), made.mono (by omega), ?_⟩
    intro written done
    obtain ⟨report, ran, rfl⟩ := Action.map_eq_ok done
    rw [Answer.elevations, List.forall_mem_singleton, elevated report ran]
    exact room

theorem outcome_bounded (consistent : settings.Consistent) (short : engine.expander.Short)
    (shared : engine.expander.settings.maxDepth = settings.maxDepth) {read : Except (Failure Float) Task}
    (within : ∀ task, read = .ok task → task.Within settings.limits) (n : Nat) :
    Bounded settings engine (outcome engine n read) := by
  cases read with
  | error e => exact .refused short e
  | ok task => exact carryOut_bounded consistent short shared (within task rfl) n

end Task

/-- Every request does bounded work. On any engine that a new one with accepted settings can become, a
request of any kind adds no more rounds and no more expansions than the limits allow. The components are
given short vectors of finite numbers only, and what they answer with is made of elevated vectors and
expansions within the limits. -/
theorem Dispatcher.dispatch_bounded {settings : Settings Float} (accepted : settings.fault? = none) :
    ∃ fresh, Engine.new settings = .ok fresh ∧ ∀ dispatcher : Dispatcher,
      fresh.Reached dispatcher.engine → ∀ (request : Request) (n : Nat), request.arguments.Storable →
        let task := request.task? settings.limits
        let outcome := Task.outcome dispatcher.engine n task
        let r := (dispatcher.dispatch request n).1
        (r.1 = .ofAnswer request.name outcome.1 ∧ r.2.engine = outcome.2) ∧
        r.2.engine.selector.history.length ≤
          dispatcher.engine.selector.history.length + settings.limits.maxGenerations ∧
        r.2.engine.expander.size ≤
          dispatcher.engine.expander.size + max settings.limits.maxVectorLength settings.maxDepth ∧
        (∀ asked, task = .ok asked → ∀ vector ∈ asked.vectors,
          vector.length ≤ settings.limits.maxVectorLength ∧ ∀ x ∈ vector, x.isFinite) ∧
        (∀ answer, outcome.1 = .ok answer →
          (∀ vector ∈ answer.elevations, vector.length ≤ settings.limits.maxTargetDimension) ∧
          ∀ x ∈ answer.expansions, x.terms.length ≤ 2 * settings.maxDepth + 1) ∧
        ∀ x ∈ r.2.engine.expander.memory, x.terms.length ≤ 2 * settings.maxDepth + 1 := by
  have consistent := Settings.consistent_of_accepted accepted
  obtain ⟨fresh, built⟩ := Engine.exists_new accepted
  obtain ⟨same, configured⟩ := Engine.new_configured built
  refine ⟨fresh, built, fun dispatcher reached request n storable => ?_⟩
  have continues := reached.continues (Engine.new_continues built).1
  have limits : dispatcher.engine.settings = settings := continues.rules.settings.trans same
  obtain ⟨keys, remembers⟩ := continues.remembers
  have shared : dispatcher.engine.expander.settings.maxDepth = settings.maxDepth := by
    rw [continues.expander, configured.shared, same]
    rfl
  have within (task : Task) (read : request.task? settings.limits = .ok task) :
      task.Within settings.limits := Request.task?_within consistent storable read
  obtain ⟨history, adds, elevations⟩ := Task.outcome_bounded consistent remembers.short shared within n
  have answered := dispatcher.dispatch_eq request n
  rw [limits] at answered
  intro task outcome r
  have next : r.2.engine = outcome.2 := answered.2
  have still : outcome.2.expander.settings.maxDepth = settings.maxDepth := by
    rw [adds.settings]
    exact shared
  rw [next]
  refine ⟨⟨answered.1, rfl⟩, history, adds.memory, ?_, ?_, ?_⟩
  · intro asked read vector given
    have admitted := (within asked read).vectors vector given
    exact ⟨admitted.length, admitted.finite⟩
  · intro answer done
    refine ⟨elevations answer done, fun x member => ?_⟩
    rw [← shared]
    refine adds.produced answer.expansions ?_ x member
    exact congrArg (Except.map Answer.expansions) done
  · intro x member
    rw [← still]
    exact adds.short x member

/-- A run over what is partly no number, on an engine that has run before. -/
theorem Dispatcher.dispatch_bounded_mixed :
    let mixed : Arguments := [("vector", .arr [.int 3, .str "two", .null]), ("generations", .int 7)]
    (Settings.standard : Settings Float).fault? = none ∧ mixed.Storable ∧
      ∃ fresh : Engine Float, Engine.new Settings.standard = .ok fresh ∧
        let used := (fresh.run [1, 2] {} 1).1.2
        let r := (dispatch (.new used none) ⟨"engine.run", mixed⟩ 50).1
        r.2.engine.selector.history.length ≤ used.selector.history.length + 100 ∧
          r.2.engine.expander.size ≤ used.expander.size + 256 := by
  intro mixed
  have accepted : (Settings.standard : Settings Float).fault? = none := by decide +kernel
  have storable : mixed.Storable := by
    intro name items given
    obtain ⟨before, after, split, -⟩ := List.lookup_eq_some_iff.mp given
    have member : (name, Json.arr items) ∈ mixed := by
      rw [split]
      exact List.mem_append_right _ List.mem_cons_self
    simp only [mixed, List.mem_cons, Prod.mk.injEq, reduceCtorEq, and_false, List.not_mem_nil, or_false,
      Json.arr.injEq] at member
    rw [member.2]
    decide
  obtain ⟨fresh, built, bounded⟩ := dispatch_bounded accepted
  refine ⟨accepted, storable, fresh, built, ?_⟩
  intro used r
  obtain ⟨-, history, memory, -⟩ :=
    bounded (.new used none) (.run [1, 2] {} 1 .new) ⟨"engine.run", mixed⟩ 50 storable
  exact ⟨history, memory⟩

end FormulaLab
