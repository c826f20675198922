import FormulaLab.Proofs.Construction.Shape
import FormulaLab.Proofs.Dimension.Flags
import FormulaLab.Proofs.Engine.Independence
import FormulaLab.Proofs.Population.Succession
import FormulaLab.Proofs.Rulebook.Termination

/-! What a run that succeeds reports. The phases hand on as many parts as the vector has components or
neighbours; the leaves have no variables, so a chain forgets all of them but the last; and no combination of
two leaves is a power, so one pass is all that the standard rules can do with it. -/

namespace FormulaLab

namespace Formula

variable {α : Type} {v : α} {f a b : Formula α} {fs : List (Formula α)} {n : Nat}

/-- A constant that carries the number, by itself or under a symbol. -/
def IsLeafOf (v : α) (f : Formula α) : Prop :=
  ∃ id label, f = node id ⟨.constant, some v, label, none⟩ []

/-- A formula without variables and without powers, as leaves are and what is made of them. -/
structure Plain (f : Formula α) : Prop where
  closed : f.Closed
  powers : f.powerCount = 0

theorem IsLeafOf.plain (leaf : IsLeafOf v f) : f.Plain := by
  obtain ⟨id, label, rfl⟩ := leaf
  exact ⟨by simp [Closed, kind, head], rfl⟩

/-- A node over two plain formulas is plain, unless it is a power. -/
theorem Plain.pair (first : a.Plain) (second : b.Plain) {id : String} {head : Head α}
    (known : head.kind ≠ .var) (other : (node id head [a, b]).isPower = false) :
    (node id head [a, b]).Plain := by
  constructor
  · refine forall_nodes_node.mpr ⟨known, ?_⟩
    rintro child (_ | ⟨_, _ | ⟨_, _ | _⟩⟩)
    · exact first.closed
    · exact second.closed
  · rw [powerCount_node, other]
    simp [first.powers, second.powers]

/-- The last of formulas without variables is what a chain of them comes to. -/
theorem chain_last {chained : Fresh (Formula α)} (closed : ∀ f ∈ fs, f.Closed)
    (composed : chain fs = .ok chained) (n : Nat) : fs.getLast? = some (chained n).1 := by
  cases fs with
  | nil => contradiction
  | cons first rest =>
    obtain rfl := Except.ok.inj composed
    obtain rfl | ⟨before, last, rfl⟩ := List.eq_nil_or_concat' rest
    · rfl
    · have final : last.Closed := closed last (by simp)
      obtain ⟨m, -, same⟩ := chain_restarts final first before [] n
      rw [same, ← List.cons_append, List.getLast?_concat]
      rfl

variable [Scalar α]

theorem leaf_isLeafOf (v : α) (n : Nat) : IsLeafOf v (leaf v n).1 := by
  unfold leaf
  cases Constant.recognize? v Constant.recognitionTolerance with
  | none => exact ⟨_, _, rfl⟩
  | some known => exact ⟨_, _, rfl⟩

theorem combine_plain (mode : SynthesisMode) (first : a.Plain) (second : b.Plain) (n : Nat) :
    (combine mode a b n).1.Plain := by
  cases mode with
  | add => exact first.pair second nofun rfl
  | mul => exact first.pair second nofun rfl
  | dual => exact first.pair second nofun rfl
  | compose =>
    change (compose a b n).1.Plain
    rw [compose_closed second.closed]
    exact second

/-- With a bound of one pass or more, a plain formula is reduced by one pass at most. -/
theorem Plain.reduces (plain : f.Plain) {bound : Nat} (some : 0 < bound) (accuracy precision : α)
    (n : Nat) : let reduction := ((Rulebook.standard accuracy).reduce precision bound f n).1
    reduction.converged = true ∧ reduction.steps.length ≤ 1 := by
  have enough : f.powerCount + 1 ≤ bound := by rw [plain.powers]; exact some
  obtain ⟨converged, few⟩ := Rulebook.iterate_converges accuracy (s := (f, n)) enough 0
  rw [plain.powers] at few
  exact ⟨converged, few⟩

end Formula

namespace Engine

open Formula (IsLeafOf Plain)

variable {α : Type} [Scalar α] {engine next : Engine α} {vector : List α} {fs : List (Formula α)}

/-! The phases. -/

theorem numericPhase_shape {depth : Nat} {phase : NumericPhase α} (nonempty : vector ≠ [])
    (counted : engine.numericPhase vector depth = (.ok phase, next)) :
    phase.expansions.length = vector.length ∧
      (phase.elevated.length = 2 * vector.length ∧ phase.elevated.take vector.length = vector) ∧
      phase.reduced.length = max (vector.length / 2) 1 := by
  have positive := List.length_pos_iff.mpr nonempty
  have doubled : vector.length ≤ vector.length * 2 := by omega
  have raised := Dimension.elevate_ok nonempty doubled
  have lowered : Dimension.reduce vector (max (vector.length / 2) 1) = .ok _ :=
    Dimension.reduce_ok (by omega) (by omega)
  unfold numericPhase at counted
  split at counted
  · cases counted
  next expansions expander extended =>
    obtain ⟨done, -⟩ := Prod.mk.inj counted
    rw [raised, lowered] at done
    cases done
    refine ⟨Expander.extendAll_length extended, ⟨?_, List.take_left⟩, Dimension.blockMeans_length _ _⟩
    exact (Dimension.raise_length doubled).trans (Nat.mul_comm _ _)

/-- Neighbours are as many as there are formulas, but one. -/
theorem combineNeighbours_plain (mode : SynthesisMode) (precision : α) (plain : ∀ f ∈ fs, f.Plain)
    (n : Nat) : let combined := (combineNeighbours mode precision fs n).1
    combined.length = fs.length - 1 ∧ ∀ synthesis ∈ combined, synthesis.formula.Plain := by
  induction fs generalizing n with
  | nil => exact ⟨rfl, fun _ => nofun⟩
  | cons first rest ih =>
    obtain ⟨plainFirst, plainRest⟩ := List.forall_mem_cons.mp plain
    cases rest with
    | nil => exact ⟨rfl, fun _ => nofun⟩
    | cons second rest =>
      have made := Formula.combine_plain mode plainFirst (plainRest second List.mem_cons_self) n
      obtain ⟨count, others⟩ := ih plainRest (Formula.combine mode first second n).2
      exact ⟨congrArg Nat.succ count, List.forall_mem_cons.mpr ⟨made, others⟩⟩

theorem synthesize_plain (mode : SynthesisMode) (precision : α) (plain : ∀ f ∈ fs, f.Plain)
    (nonempty : fs ≠ []) (n : Nat) : let combined := (synthesize mode precision fs n).1
    combined.length = max (fs.length - 1) 1 ∧ ∀ synthesis ∈ combined, synthesis.formula.Plain := by
  match fs with
  | [] => contradiction
  | [only] =>
    refine ⟨rfl, fun synthesis member => ?_⟩
    obtain rfl := List.mem_singleton.mp member
    exact plain only List.mem_cons_self
  | first :: second :: rest =>
    obtain ⟨count, each⟩ := combineNeighbours_plain mode precision plain n
    exact ⟨count.trans (by simp), each⟩

/-- What the formulas of a run are made of. -/
structure Formed (engine : Engine α) (vector : List α) (phase : FormulaPhase α) : Prop where
  leaves : List.Forall₂ IsLeafOf vector phase.formulas
  syntheses : phase.syntheses.length = max (vector.length - 1) 1
  chain : phase.formulas.getLast? = some phase.chain.formula
  reductions : phase.reductions.map (·.input) = phase.syntheses.map (·.formula)
  /-- By the standard rules every reduction is done with one pass at most. -/
  reduced : ∀ accuracy, engine.rulebook = .standard accuracy → 0 < engine.settings.maxReduceSteps →
    ∀ reduction ∈ phase.reductions, reduction.converged = true ∧ reduction.steps.length ≤ 1

theorem formulaPhase_formed {mode : SynthesisMode} {phase : FormulaPhase α} {n m : Nat}
    (nonempty : vector ≠ []) (formed : engine.formulaPhase vector mode n = (.ok phase, m)) :
    engine.Formed vector phase := by
  have leaves : List.Forall₂ IsLeafOf vector (vector.mapM Formula.leaf n).1 := by
    refine (Fresh.mapM_results Formula.leaf vector n).imp ?_
    rintro v _ ⟨k, rfl⟩
    exact Formula.leaf_isLeafOf v k
  have some := mapM_leaf_ne_nil nonempty n
  -- The phase draws ids in turn, so each result is named before the next is read off.
  simp only [formulaPhase, bind, StateT.bind] at formed
  generalize vector.mapM Formula.leaf n = drawn at leaves some formed
  obtain ⟨formulas, k⟩ := drawn
  dsimp only at leaves some formed
  have plain : ∀ f ∈ formulas, f.Plain := by
    intro f member
    obtain ⟨v, -, leaf⟩ := exists_partner leaves.flip member
    exact IsLeafOf.plain leaf
  have combined := synthesize_plain mode engine.settings.precision plain some k
  generalize synthesize mode engine.settings.precision formulas k = drawn at combined formed
  obtain ⟨syntheses, j⟩ := drawn
  obtain ⟨count, plainSyntheses⟩ := combined
  dsimp only at count plainSyntheses formed
  cases composed : Formula.chain formulas with
  | error e =>
    rw [composed] at formed
    cases formed
  | ok chained =>
    rw [composed] at formed
    have last := Formula.chain_last (fun f member => (plain f member).closed) composed j
    have results := Fresh.mapM_results (fun synthesis : Analysis α => engine.reduce synthesis.formula)
      syntheses (chained j).2
    cases formed
    constructor
    case leaves => exact leaves
    case syntheses => rw [count, leaves.length_eq]
    case chain => exact last
    case reductions =>
      rw [← List.forall₂_eq_eq_eq, List.forall₂_map_left_iff, List.forall₂_map_right_iff]
      refine List.Forall₂.flip (results.imp ?_)
      rintro synthesis _ ⟨i, rfl⟩
      rfl
    case reduced =>
      intro accuracy standard bound reduction member
      obtain ⟨synthesis, among, i, rfl⟩ := exists_partner results.flip member
      rw [reduce, standard]
      exact (plainSyntheses synthesis among).reduces bound accuracy _ i

/-- The first population has one candidate for each synthesis, in order. -/
theorem initialPopulation_analysis (index : Nat) (syntheses : List (Analysis α))
    (selector : Selector α) :
    (initialPopulation index syntheses selector).1.map (·.analysis) = syntheses := by
  induction syntheses generalizing index selector with
  | nil => rfl
  | cons synthesis rest ih => exact congrArg (synthesis :: ·) (ih (index + 1) _)

theorem evolutionPhase_opens (syntheses : List (Analysis α)) {generations : Nat}
    (some : 0 < generations) (n : Nat) :
    ∃ round rest, (engine.evolutionPhase syntheses generations n).1.1.rounds = round :: rest ∧
      round.candidates.map (·.analysis) = syntheses := by
  obtain ⟨litters, run⟩ := Selector.exists_unfolds (goldenMutator engine.settings.precision)
    generations (initialPopulation 0 syntheses engine.selector).1
    (initialPopulation 0 syntheses engine.selector).2 n
  obtain ⟨round, rest, rounds⟩ := List.exists_cons_of_ne_nil (run.ne_nil some)
  have opened := (run.opens round (by rw [rounds]; rfl)).1
  refine ⟨round, rest, rounds, ?_⟩
  rw [opened]
  exact initialPopulation_analysis 0 syntheses engine.selector

variable [NumberText α]

/-- A report holds what the phases made one after the other, of engines of the same settings and rules. -/
theorem run_phases {options : RunOptions} {report : RunReport α} {n : Nat} (nonempty : vector ≠ [])
    (done : (engine.run vector options n).1.1 = .ok report) :
    ∃ (middle : Engine α) (m : Nat), middle.settings = engine.settings ∧
      middle.rulebook = engine.rulebook ∧
      engine.numericPhase vector options.depth = (.ok report.numeric, middle) ∧
      middle.formulaPhase vector options.mode n = (.ok report.formula, m) ∧
      report.evolution = (middle.evolutionPhase report.formula.syntheses options.generations m).1.1 ∧
      report.input = vector ∧ report.options = options := by
  have given : ¬vector.isEmpty = true := fun empty => nonempty (List.isEmpty_iff.mp empty)
  have after := numericPhase_engine engine vector options.depth
  rw [run, if_neg given] at done
  generalize engine.numericPhase vector options.depth = x at after done ⊢
  obtain ⟨answer, middle⟩ := x
  dsimp only at after done
  cases answer with
  | error e => cases done
  | ok numeric =>
    simp only [bind, StateT.bind] at done
    cases formed : middle.formulaPhase vector options.mode n with
    | mk answer m =>
      rw [formed] at done
      cases answer with
      | error e => cases done
      | ok formula =>
        cases done
        refine ⟨middle, m, ?_, ?_, rfl, formed, rfl, rfl, rfl⟩
        · rw [after]
        · rw [after]

/-- What a successful run reports of a vector. -/
structure Reports (engine : Engine α) (vector : List α) (options : RunOptions)
    (report : RunReport α) : Prop where
  input : report.input = vector ∧ report.options = options
  expansions : report.numeric.expansions.length = vector.length
  elevated : report.numeric.elevated.length = 2 * vector.length ∧
    report.numeric.elevated.take vector.length = vector
  reduced : report.numeric.reduced.length = max (vector.length / 2) 1
  formed : engine.Formed vector report.formula
  /-- The evolution starts from one candidate for each synthesis, in order. -/
  population : 0 < options.generations → ∃ round rest, report.evolution.rounds = round :: rest ∧
    round.candidates.map (·.analysis) = report.formula.syntheses

theorem run_reports {options : RunOptions} {report : RunReport α} {n : Nat} (nonempty : vector ≠ [])
    (done : (engine.run vector options n).1.1 = .ok report) :
    engine.Reports vector options report := by
  obtain ⟨middle, m, settings, rulebook, counted, formed, evolved, input⟩ := run_phases nonempty done
  obtain ⟨expansions, elevated, reduced⟩ := numericPhase_shape nonempty counted
  have shaped := formulaPhase_formed nonempty formed
  constructor
  case input => exact input
  case expansions => exact expansions
  case elevated => exact elevated
  case reduced => exact reduced
  case formed =>
    refine ⟨shaped.leaves, shaped.syntheses, shaped.chain, shaped.reductions, ?_⟩
    rw [← settings, ← rulebook]
    exact shaped.reduced
  case population =>
    intro some
    rw [evolved]
    exact evolutionPhase_opens _ some m

/-- A run fails on the empty vector and beyond the greatest depth, and nowhere else. -/
theorem run_isError_iff {engine : Engine Float} (configured : engine.Configured) (vector : List Float)
    (options : RunOptions) (n : Nat) :
    (∃ e, (engine.run vector options n).1.1 = .error e) ↔
      vector.length = 0 ∨ engine.settings.maxDepth < options.depth := by
  have depths : engine.expander.settings.maxDepth = engine.settings.maxDepth := by
    rw [configured.shared]
    rfl
  rw [List.length_eq_zero_iff, ← depths]
  by_cases empty : vector = []
  · subst empty
    exact iff_of_true ⟨_, congrArg (·.1.1) (run_empty engine options n)⟩ (.inl rfl)
  · obtain beyond | within := Nat.lt_or_ge engine.expander.settings.maxDepth options.depth
    · rw [run_beyond empty beyond n]
      exact iff_of_true ⟨_, rfl⟩ (.inr beyond)
    · obtain ⟨report, next, answer, -⟩ := run_within empty within n
      rw [answer]
      exact iff_of_false nofun (not_or.mpr ⟨empty, Nat.not_lt.mpr within⟩)

/-- Runs succeed exactly when they should, and their phases fit together. This holds of every configured
engine, as every one is that a new engine of accepted settings becomes, with the standard rules. -/
theorem run_complete :
    (∀ settings : Settings Float, settings.fault? = none → ∃ fresh, Engine.new settings = .ok fresh ∧
      ∀ engine, fresh.Reached engine → engine.Configured ∧ engine.settings = settings ∧
        engine.rulebook = .standard settings.precision) ∧
    ∀ engine : Engine Float, engine.Configured → ∀ vector options n,
      ((∃ e, (engine.run vector options n).1.1 = .error e) ↔
        vector.length = 0 ∨ engine.settings.maxDepth < options.depth) ∧
      ∀ report, (engine.run vector options n).1.1 = .ok report →
        engine.Reports vector options report := by
  constructor
  · intro settings accepted
    obtain ⟨fresh, built⟩ := exists_new accepted
    refine ⟨fresh, built, fun engine reached => ?_⟩
    obtain ⟨same, configured⟩ := new_configured built
    obtain ⟨start, -, -, rules, -⟩ := new_continues built
    have continues := reached.continues start
    have kept : fresh.SameSettings engine := ⟨continues.rules.settings, continues.expander⟩
    exact ⟨configured.of_same kept, continues.rules.settings.trans same,
      continues.rules.rulebook.trans rules⟩
  · intro engine configured vector options n
    have fails := run_isError_iff configured vector options n
    refine ⟨fails, fun report done => run_reports ?_ done⟩
    rintro rfl
    obtain ⟨e, failed⟩ := fails.mpr (.inl rfl)
    rw [failed] at done
    cases done

/-- A new engine after a run: it pairs three numbers into two duals, which are reduced by one pass at most,
and refuses the empty vector and a depth above its own. -/
theorem run_complete_duals :
    (Settings.standard : Settings Float).fault? = none ∧
      ∃ fresh : Engine Float, Engine.new Settings.standard = .ok fresh ∧
        let engine := (fresh.run [7] {} 0).1.2
        let options : RunOptions := { mode := .dual, generations := 1 }
        engine.Configured ∧ (∃ e, (engine.run [] options 1).1.1 = .error e) ∧
          (∃ e, (engine.run [1, -0, 3] { depth := 65 } 1).1.1 = .error e) ∧
          ∃ report, (engine.run [1, -0, 3] options 1).1.1 = .ok report ∧
            engine.Reports [1, -0, 3] options report ∧ report.formula.syntheses.length = 2 ∧
            (∀ reduction ∈ report.formula.reductions,
              reduction.converged = true ∧ reduction.steps.length ≤ 1) ∧
            ∃ round rest, report.evolution.rounds = round :: rest ∧ round.candidates.length = 2 := by
  have accepted : (Settings.standard : Settings Float).fault? = none := by decide +kernel
  obtain ⟨fresh, built, reaches⟩ := run_complete.1 _ accepted
  obtain ⟨configured, settings, rules⟩ := reaches _ (.run [7] {} 0 .new)
  refine ⟨accepted, fresh, built, ?_⟩
  intro engine options
  have answers := run_complete.2 engine configured
  have bound : 0 < engine.settings.maxReduceSteps := by rw [settings]; decide
  have limit : engine.settings.maxDepth = 64 := by rw [settings]; rfl
  cases done : (engine.run [1, -0, 3] options 1).1.1 with
  | error e =>
    rcases (answers [1, -0, 3] options 1).1.mp ⟨e, done⟩ with empty | beyond
    · contradiction
    · rw [limit] at beyond
      contradiction
  | ok report =>
    have reports := (answers [1, -0, 3] options 1).2 report done
    have two : report.formula.syntheses.length = 2 := reports.formed.syntheses
    obtain ⟨round, rest, rounds, made⟩ := reports.population Nat.one_pos
    refine ⟨configured, (answers [] options 1).1.mpr (.inl rfl),
      (answers [1, -0, 3] { depth := 65 } 1).1.mpr (.inr (by rw [limit]; decide)), report, rfl,
      reports, two, reports.formed.reduced _ rules bound, round, rest, rounds, ?_⟩
    rw [← two, ← made, List.length_map]

end Engine
end FormulaLab
