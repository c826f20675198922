import FormulaLab.Proofs.Population.Rounds
import Mathlib.Data.List.Chain

/-! Evolution under a selector that looks at nothing but the analysis of a candidate. A survivor
leaves every later round as it came in, one round older, so survivors are lost to the population limit
only, and an evolution that has survivors once goes on to its end. -/

namespace FormulaLab

open Scalar (TotalOrder totalLe)

variable {α : Type} [Scalar α]

/-- Rounds give the same total and the same verdict to candidates with the same analysis. -/
def Round.JudgeAlike (r s : Round α) : Prop :=
  ∀ p ∈ r.candidates.zip r.results, ∀ q ∈ s.candidates.zip s.results,
    p.1.analysis = q.1.analysis → p.2.total = q.2.total ∧ p.2.verdict = q.2.verdict

namespace Selector

/-- What a round hands on to the next one. -/
structure HandsOn (selector : Selector α) (earlier later : Round α) : Prop where
  /-- The survivors enter the next round, in front of one child for each candidate to mutate. -/
  entered : ∃ children : List (Candidate α), later.candidates = earlier.survivors ++ children ∧
    children.length = earlier.mutated.length
  /-- They all stand again; only the population limit may cut them. -/
  stand : ∃ newcomers : List (Candidate α), later.survivors =
    (cut selector.settings.populationLimit (earlier.survivors.map Candidate.aged ++ newcomers)).1
  /-- A survivor that is cut is eliminated from a round that has filled the limit. -/
  again : ∀ c ∈ earlier.survivors, c.aged ∈ later.survivors ∨
    c.aged ∈ later.eliminated ∧ later.survivors.length = selector.settings.populationLimit
  many : earlier.survivors.length ≤ later.survivors.length
  fit : ∀ best, Fitness.fittest? earlier.survivors = some best →
    ∃ fitter, Fitness.fittest? later.survivors = some fitter ∧
      totalLe best.fitness fitter.fitness = true

/-- A candidate that comes out of a round as it came in, one round older. -/
def Steady (selector : Selector α) (c : Candidate α) : Prop := selector.stands? c = some c.aged

variable {selector : Selector α} {c d : Candidate α} {count : Nat}
variable {population children : List (Candidate α)} {earlier later round : Round α}
variable {rounds : List (Round α)}

omit [Scalar α] in
theorem settled_same (result : Evaluation α) (c : Candidate α) :
    (settled result c).id = c.id ∧ (settled result c).analysis = c.analysis := by
  unfold settled
  split <;> exact ⟨rfl, rfl⟩

omit [Scalar α] in
/-- A survivor has its total as fitness or was suspended; the same judgement changes its age only. -/
theorem settled_again (result : Evaluation α) (id : Nat)
    (standing : result.verdict ∈ [.survive, .suspend]) :
    settled { result with candidateId := id } (settled result c) = (settled result c).aged := by
  simp only [List.mem_cons, List.not_mem_nil, or_false] at standing
  obtain survive | suspend := standing
  · simp only [settled, survive, Candidate.aged]
  · simp only [settled, suspend, Candidate.aged]

theorem steady_of_stands (analytic : selector.Analytic) (stands : selector.stands? c = some d) :
    selector.Steady d := by
  simp only [stands?] at stands
  split at stands
  next standing =>
    cases stands
    rw [Steady, stands?, evaluate_congr analytic (settled_same _ c).2]
    exact (if_pos standing).trans (congrArg some (settled_again _ _ standing))
  · contradiction

theorem Selects.exists_stands (selects : selector.Selects population round) :
    ∀ c ∈ round.survivors, ∃ d ∈ round.candidates, selector.stands? d = some c := by
  intro c member
  rw [selects.survivors] at member
  rw [selects.candidates]
  exact List.mem_filterMap.mp (mem_of_mem_cut member)

theorem survivors_steady (analytic : selector.Analytic)
    (selects : selector.Selects population round) : ∀ c ∈ round.survivors, selector.Steady c := by
  intro c member
  obtain ⟨_, _, stands⟩ := selects.exists_stands c member
  exact steady_of_stands analytic stands

/-- A survivor is a candidate of its round, under its id and with its analysis. -/
theorem Selects.traced (selects : selector.Selects population round) :
    ∀ c ∈ round.survivors, ∃ d ∈ round.candidates, c.id = d.id ∧ c.analysis = d.analysis := by
  intro c member
  obtain ⟨d, entered, stands⟩ := selects.exists_stands c member
  simp only [stands?, Option.ite_none_right_eq_some, Option.some.injEq] at stands
  obtain ⟨_, rfl⟩ := stands
  exact ⟨d, entered, settled_same _ d⟩

theorem standing_append (steady : ∀ c ∈ population, selector.Steady c)
    (children : List (Candidate α)) : selector.standing (population ++ children) =
    population.map Candidate.aged ++ selector.standing children := by
  rw [standing, List.filterMap_append]
  congr 1
  rw [← List.filterMap_eq_map]
  exact List.filterMap_congr steady

theorem Selects.survivors_length (selects : selector.Selects population round) :
    round.survivors.length =
      min selector.settings.populationLimit (selector.standing population).length := by
  rw [selects.survivors, kept, cut_length]

variable [TotalOrder α]

theorem handsOn (analytic : selector.Analytic) (first : selector.Selects population earlier)
    (second : selector.Selects (earlier.survivors ++ children) later)
    (replaced : children.length = earlier.mutated.length) : selector.HandsOn earlier later := by
  have standing := standing_append (survivors_steady analytic first) children
  have filled := first.survivors_length
  have refilled := second.survivors_length
  have survivors := second.survivors
  have overflow := second.overflow
  simp only [kept, standing] at survivors overflow refilled
  have stands : ∀ c ∈ earlier.survivors,
      c.aged ∈ earlier.survivors.map Candidate.aged ++ selector.standing children :=
    fun c member => List.mem_append_left _ (List.mem_map_of_mem member)
  refine ⟨⟨children, second.candidates, replaced⟩, ⟨_, survivors⟩, ?_, ?_, ?_⟩
  · intro c member
    rw [survivors]
    obtain kept | ⟨lost, full⟩ := mem_cut_or (stands c member)
    · exact .inl kept
    · exact .inr ⟨overflow _ lost, full⟩
  · rw [refilled, List.length_append, List.length_map]
    omega
  · intro best found
    have member := (Fitness.fittest?_greatest found).1
    have positive : 0 < selector.settings.populationLimit := by
      have := List.length_pos_of_mem member
      omega
    obtain ⟨d, kept, fitter⟩ := exists_fit_mem_cut positive (stands best member)
    rw [← survivors] at kept
    obtain ⟨fittest, found⟩ := Fitness.fittest?_of_mem kept
    have greatest := (Fitness.fittest?_greatest found).2 d kept
    exact ⟨fittest, found, TotalOrder.trans best.fitness d.fitness fittest.fitness fitter greatest⟩

theorem Evolves.chain (analytic : selector.Analytic)
    (run : selector.Evolves count population rounds) : rounds.IsChain selector.HandsOn := by
  induction run with
  | finished => exact .nil
  | stopped => exact .singleton _
  | next children selects _ replaced rest ih =>
    -- The round after this one shows only in how the rest began.
    cases rest with
    | finished => exact .singleton _
    | stopped later => exact .cons_cons (handsOn analytic selects later replaced) (.singleton _)
    | next _ later => exact .cons_cons (handsOn analytic selects later replaced) ih

omit [TotalOrder α] in
theorem Evolves.results (run : selector.Evolves count population rounds) :
    ∀ round ∈ rounds, round.results = round.candidates.map selector.evaluate := by
  induction run with
  | finished => simp
  | stopped selects =>
    rw [List.forall_mem_singleton, selects.candidates]
    exact selects.results
  | next children selects _ _ _ ih =>
    rw [List.forall_mem_cons, selects.candidates]
    exact ⟨selects.results, ih⟩

omit [TotalOrder α] in
/-- With a steady candidate among the first, every round has survivors. -/
theorem Evolves.complete (analytic : selector.Analytic)
    (run : selector.Evolves count population rounds)
    (positive : 0 < selector.settings.populationLimit)
    (steady : ∃ c ∈ population, selector.Steady c) :
    rounds.length = count ∧ ∀ round ∈ rounds, round.survivors ≠ [] := by
  have survive {population : List (Candidate α)} {round : Round α}
      (selects : selector.Selects population round) (steady : ∃ c ∈ population, selector.Steady c) :
      round.survivors ≠ [] := by
    obtain ⟨c, member, stands⟩ := steady
    have standing : 0 < (selector.standing population).length :=
      List.length_pos_of_mem (List.mem_filterMap.mpr ⟨c, member, stands⟩)
    have length := selects.survivors_length
    exact List.length_pos_iff.mp (by omega)
  induction run with
  | finished => simp
  | stopped selects empty => exact absurd empty (survive selects steady)
  | next children selects survived _ _ ih =>
    obtain ⟨c, member⟩ := List.exists_mem_of_ne_nil _ survived
    obtain ⟨length, all⟩ :=
      ih ⟨c, List.mem_append_left _ member, survivors_steady analytic selects c member⟩
    exact ⟨congrArg Nat.succ length, List.forall_mem_cons.mpr ⟨survived, all⟩⟩

omit [TotalOrder α] in
/-- An evolution stops early in its first round or not at all. -/
theorem Evolves.stops_first (analytic : selector.Analytic)
    (run : selector.Evolves count population rounds) :
    (∃ round, rounds = [round] ∧ round.survivors = []) ∨
      rounds.length = count ∧ ∀ round ∈ rounds, round.survivors ≠ [] := by
  cases run with
  | finished => simp
  | stopped selects empty => exact .inl ⟨_, rfl, empty⟩
  | next children selects survived replaced rest =>
    obtain ⟨c, member⟩ := List.exists_mem_of_ne_nil _ survived
    have length := selects.survivors_length
    have positive := List.length_pos_of_mem member
    obtain ⟨complete, all⟩ := rest.complete analytic (by omega)
      ⟨c, List.mem_append_left _ member, survivors_steady analytic selects c member⟩
    exact .inr ⟨congrArg Nat.succ complete, List.forall_mem_cons.mpr ⟨survived, all⟩⟩

omit [TotalOrder α] in
theorem Evolves.traced (run : selector.Evolves count population rounds) :
    ∀ round ∈ rounds, ∀ c ∈ round.survivors,
      ∃ d ∈ round.candidates, c.id = d.id ∧ c.analysis = d.analysis := by
  induction run with
  | finished => simp
  | stopped selects => exact List.forall_mem_singleton.mpr selects.traced
  | next _ selects _ _ _ ih => exact List.forall_mem_cons.mpr ⟨selects.traced, ih⟩

omit [TotalOrder α] in
theorem Evolves.judgeAlike (analytic : selector.Analytic)
    (run : selector.Evolves count population rounds) :
    ∀ r ∈ rounds, ∀ s ∈ rounds, r.JudgeAlike s := by
  intro r memberR s memberS p judgedR q judgedS same
  rw [run.results r memberR, ← List.map_prod_left_eq_zip, List.mem_map] at judgedR
  rw [run.results s memberS, ← List.map_prod_left_eq_zip, List.mem_map] at judgedS
  obtain ⟨c, -, rfl⟩ := judgedR
  obtain ⟨d, -, rfl⟩ := judgedS
  rw [evaluate_congr analytic same]
  exact ⟨rfl, rfl⟩

/-- Evolution is stable and elitist for every population, mutator and number of generations, where
judgement looks at nothing but the analysis of a candidate, as it does by default. -/
theorem evolve_stable :
    (∀ (settings : SelectionSettings α) (selector : Selector α),
      standard settings = .ok selector → selector.Analytic) ∧
    ∀ (selector : Selector α), selector.Analytic →
      ∀ (mutator : Mutator α) (generations : Nat) (population : List (Candidate α)) (n : Nat),
        let rounds := (evolve mutator generations population selector n).1.1.rounds
        (∀ r ∈ rounds, r.results.length = r.candidates.length) ∧
        (∀ r ∈ rounds, ∀ s ∈ rounds, r.JudgeAlike s) ∧
        (∀ r ∈ rounds, ∀ c ∈ r.survivors,
          ∃ d ∈ r.candidates, c.id = d.id ∧ c.analysis = d.analysis) ∧
        rounds.IsChain selector.HandsOn ∧
        ((∃ round, rounds = [round] ∧ round.survivors = []) ∨
          rounds.length = generations ∧ ∀ round ∈ rounds, round.survivors ≠ []) := by
  refine ⟨fun _ _ => standard_analytic, ?_⟩
  intro selector analytic mutator generations population n
  have run : selector.Evolves generations population
      (evolve mutator generations population selector n).1.1.rounds :=
    evolveRounds_evolves selector mutator generations population selector.history selector.nextId n
  refine ⟨?_, run.judgeAlike analytic, run.traced, run.chain analytic, run.stops_first analytic⟩
  intro r member
  rw [run.results r member, List.length_map]

/-- A selector that keeps one candidate, by energy alone. -/
def energetic : Selector Float where
  settings := ⟨1, 0.001, 50, 20, 0.1⟩
  criteria := ⟨[Criterion.new "energy" 1 0.5 fun c => c.analysis.energy]⟩
  constraints := [Constraint.hard "finite-value" fun c => Formula.isFiniteValue c.value]
  policy := .standard
  history := []
  nextId := 3

/-- Two constants, of which only the first is strong enough to survive. -/
def constantPair : List (Candidate Float) :=
  [0.7, 0.4].zipIdx.map fun (v, id) =>
    { id, analysis := Formula.analyze 0.001 (.node "1" ⟨.constant, some v, none, none⟩ [])
      metadata := [], generation := 0, age := 0, fitness := 0 }

theorem evolve_stable_energetic :
    let rounds := (evolve (fun c => pure c) 3 constantPair energetic 1).1.1.rounds
    energetic.Analytic ∧ (∀ r ∈ rounds, r.results.length = r.candidates.length) ∧
      (∀ r ∈ rounds, ∀ s ∈ rounds, r.JudgeAlike s) ∧
      (∀ r ∈ rounds, ∀ c ∈ r.survivors,
        ∃ d ∈ r.candidates, c.id = d.id ∧ c.analysis = d.analysis) ∧
      rounds.IsChain energetic.HandsOn ∧ rounds.length = 3 ∧ ∀ r ∈ rounds, r.survivors ≠ [] := by
  have analytic : energetic.Analytic := by
    constructor
    · intro criterion member c d same
      obtain rfl := List.mem_singleton.mp member
      simp only [Criterion.new, same]
    · intro constraint member c d same
      obtain rfl := List.mem_singleton.mp member
      simp only [Constraint.hard, Candidate.value, same]
  have three : (evolve (fun c => pure c) 3 constantPair energetic 1).1.1.rounds.length = 3 := by
    decide +kernel
  obtain ⟨judged, alike, traced, chain, single | complete⟩ :=
    evolve_stable.2 energetic analytic (fun c => pure c) 3 constantPair 1
  · obtain ⟨round, one, _⟩ := single
    rw [one, List.length_singleton] at three
    omega
  · exact ⟨analytic, judged, alike, traced, chain, complete⟩

end Selector
end FormulaLab
