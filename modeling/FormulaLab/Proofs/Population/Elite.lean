import FormulaLab.Proofs.Population.Accounting
import Mathlib.Data.List.Sigma

/-! The population limit. A round that more candidates stand in than the limit allows keeps the fittest
of them; among equally fit ones, those that stand first. -/

namespace FormulaLab

open Scalar (TotalOrder totalLe totalLt)

variable {α : Type} [Scalar α]

/-- Of two candidates with their positions, the first is fitter, or as fit and in front. -/
def Ranks (p q : Candidate α × Nat) : Prop :=
  totalLt q.1.fitness p.1.fitness = true ∨
    totalLe q.1.fitness p.1.fitness = true ∧ totalLe p.1.fitness q.1.fitness = true ∧ p.2 < q.2

theorem Ranks.le [TotalOrder α] {p q : Candidate α × Nat} (ranks : Ranks p q) :
    totalLe q.1.fitness p.1.fitness = true := by
  obtain less | ⟨le, -⟩ := ranks
  · exact Scalar.totalLe_of_totalLt less
  · exact le

/-- The candidates of a list kept and lost, when as many are kept as the limit allows. -/
structure Elite (limit : Nat) (standing kept lost : List (Candidate α))
    (ranked : List (Candidate α × Nat)) : Prop where
  complete : ranked.Perm standing.zipIdx
  descending : ranked.Pairwise Ranks
  first : kept = (ranked.take limit).map (·.1)
  rest : lost = (ranked.drop limit).map (·.1)
  full : kept.length = limit
  /-- No candidate kept is less fit than one lost. -/
  fitter : ∀ p ∈ ranked.take limit, ∀ q ∈ ranked.drop limit,
    totalLe q.1.fitness p.1.fitness = true
  /-- A candidate lost that is as fit as one kept stood behind it. -/
  ties : ∀ p ∈ ranked.take limit, ∀ q ∈ ranked.drop limit,
    totalLe p.1.fitness q.1.fitness = true → p.2 < q.2

/-- A round that keeps those standing within the limit, and eliminates the others behind the candidates
whose verdict asks for it. -/
structure Round.Limits (round : Round α) (judge : Candidate α → Evaluation α) (limit : Nat)
    (population standing overflow : List (Candidate α)) : Prop where
  /-- Survivors and suspended candidates stand in the order of the population. -/
  stand : List.Forall₂ (fun c d => (judge c).Turns c d)
    (population.filter fun c => (judge c).verdict ∈ [.survive, .suspend]) standing
  eliminated : round.eliminated =
    (population.filter fun c => (judge c).verdict = .eliminate) ++ overflow
  within : standing.length ≤ limit → round.survivors = standing ∧ overflow = []
  beyond : limit < standing.length → ∃ ranked, Elite limit standing round.survivors overflow ranked

namespace Selector

variable {limit : Nat} {xs population : List (Candidate α)} {selector : Selector α}
  {p q : Candidate α × Nat}

theorem standing_turns (selector : Selector α) (population : List (Candidate α)) :
    List.Forall₂ (fun c d => (selector.evaluate c).Turns c d)
      (population.filter fun c => (selector.evaluate c).verdict ∈ [.survive, .suspend])
      (selector.standing population) := by
  induction population with
  | nil => exact .nil
  | cons c rest ih =>
    by_cases stands : (selector.evaluate c).verdict ∈ [.survive, .suspend]
    · have first : selector.stands? c = some (settled (selector.evaluate c) c) := if_pos stands
      rw [List.filter_cons, if_pos (decide_eq_true stands), standing, List.filterMap_cons_some first]
      exact .cons (settled_turns _ c) ih
    · have first : selector.stands? c = none := if_neg stands
      rw [List.filter_cons, if_neg (by simpa using stands), standing, List.filterMap_cons_none first]
      exact ih

theorem ranks_of_zipIdxLE
    (before : List.zipIdxLE (fun a b : Candidate α => totalLe b.fitness a.fitness) p q = true)
    (apart : p.2 ≠ q.2) : Ranks p q := by
  unfold List.zipIdxLE at before
  split at before
  next below =>
    split at before
    next above => exact .inr ⟨below, above, by simp at before; omega⟩
    next notAbove => exact .inl (by simpa [totalLt] using notAbove)
  next => contradiction

variable [TotalOrder α]

/-- Candidates in descending fitness and, where that is the same, in order of position. -/
theorem exists_ranked (xs : List (Candidate α)) : ∃ ranked : List (Candidate α × Nat),
    ranked.Perm xs.zipIdx ∧ ranked.Pairwise Ranks ∧
      ranked.map (·.1) = xs.mergeSort fun a b => totalLe b.fitness a.fitness := by
  let fitter (a b : Candidate α) : Bool := totalLe b.fitness a.fitness
  have complete := List.mergeSort_perm xs.zipIdx (List.zipIdxLE fitter)
  have sorted := List.pairwise_mergeSort
    (List.zipIdxLE_trans fun a b c first second => TotalOrder.trans c.fitness _ _ second first)
    (List.zipIdxLE_total fun a b => TotalOrder.total b.fitness a.fitness) xs.zipIdx
  have distinct : ((xs.zipIdx.mergeSort (List.zipIdxLE fitter)).map (·.2)).Nodup :=
    (complete.map _).nodup_iff.mpr (List.nodup_zipIdx_map_snd xs)
  refine ⟨_, complete, ?_, List.mergeSort_zipIdx⟩
  exact (sorted.and (List.pairwise_map.mp distinct)).imp fun ⟨before, apart⟩ =>
    ranks_of_zipIdxLE before apart

/-- A list over the limit is cut behind its fittest candidates. -/
theorem cut_elite (exceeds : limit < xs.length) :
    ∃ ranked, Elite limit xs (cut limit xs).1 (cut limit xs).2 ranked := by
  obtain ⟨ranked, complete, descending, sorted⟩ := exists_ranked xs
  have across : ∀ p ∈ ranked.take limit, ∀ q ∈ ranked.drop limit, Ranks p q := by
    rw [← List.take_append_drop limit ranked, List.pairwise_append] at descending
    exact descending.2.2
  refine ⟨ranked, complete, descending, ?_, ?_, ?_, ?_, ?_⟩
  · rw [cut, if_pos exceeds, List.splitAt_eq, ← sorted, List.map_take]
  · rw [cut, if_pos exceeds, List.splitAt_eq, ← sorted, List.map_drop]
  · rw [cut_length, Nat.min_eq_left (Nat.le_of_lt exceeds)]
  · exact fun p kept q lost => (across p kept q lost).le
  · intro p kept q lost above
    obtain less | ⟨-, -, ahead⟩ := across p kept q lost
    · rw [totalLt, above] at less
      contradiction
    · exact ahead

/-- Every round keeps within the limit, and takes the fittest candidates where it has to choose. -/
theorem select_elite (selector : Selector α) (population : List (Candidate α)) :
    ∃ standing overflow, (selector.select population).1.Limits selector.evaluate
      selector.settings.populationLimit population standing overflow := by
  have judged := withVerdict_judged selector population
  have same : selector.SameSettings selector := rfl
  have survivors := (select_selects same population).survivors
  refine ⟨selector.standing population, (selector.kept population).2, ?_, ?_, ?_, ?_⟩
  · exact standing_turns selector population
  · rw [kept, ← judged, ← withVerdict_unchanged (by decide)]
    rfl
  · intro within
    have uncut : selector.kept population = (selector.standing population, []) :=
      if_neg (Nat.not_lt.mpr within)
    rw [survivors, uncut]
    exact ⟨rfl, rfl⟩
  · intro exceeds
    rw [survivors]
    exact cut_elite exceeds

/-- A selector that suspends every candidate and keeps two of them. -/
def patient : Selector Float where
  settings := ⟨2, 0.001, 50, 20, 0.1⟩
  criteria := ⟨[Criterion.new "constant" 1 0.5 fun _ => 0.6]⟩
  constraints := []
  policy := .standard
  history := []
  nextId := 5

/-- Four candidates, two of them equally fit and one with a fitness that is not a number. -/
def unequals : List (Candidate Float) :=
  [1, 0 / 0, 1, 0.5].zipIdx.map fun (fitness, id) =>
    { id, analysis := Formula.analyze 0.001 (.node "1" ⟨.constant, some 1, none, none⟩ [])
      metadata := [], generation := 0, age := 0, fitness }

theorem select_elite_ties :
    let round := (patient.select unequals).1
    ∃ standing overflow ranked, standing.length = 4 ∧
      round.Limits patient.evaluate 2 unequals standing overflow ∧
      Elite 2 standing round.survivors overflow ranked ∧ round.survivors.length = 2 ∧
      round.eliminated = overflow := by
  have four : (unequals.filter fun c => (patient.evaluate c).verdict ∈ [.survive, .suspend]).length =
      4 := by decide +kernel
  have spared : (unequals.filter fun c => (patient.evaluate c).verdict = .eliminate).length = 0 := by
    decide +kernel
  obtain ⟨standing, overflow, limits⟩ := select_elite patient unequals
  have size : standing.length = 4 := limits.stand.length_eq.symm.trans four
  obtain ⟨ranked, elite⟩ := limits.beyond (by rw [size]; decide)
  have eliminated := limits.eliminated
  rw [List.length_eq_zero_iff.mp spared, List.nil_append] at eliminated
  exact ⟨standing, overflow, ranked, size, limits, elite, elite.full, eliminated⟩

end Selector
end FormulaLab
