import FormulaLab.Proofs.Population.Rounds
import Mathlib.Data.List.Forall2

/-! A round accounts for every candidate. Each position of the population turns up exactly once among
the survivors, the mutated and the eliminated, changed only as its verdict asks for. -/

namespace FormulaLab

open scoped List

variable {α : Type}

/-- What a judged candidate leaves a round as. Only age and fitness may change: both for a survivor, the
age alone for a suspended candidate. -/
structure Evaluation.Turns (result : Evaluation α) (c d : Candidate α) : Prop where
  id : d.id = c.id
  analysis : d.analysis = c.analysis
  metadata : d.metadata = c.metadata
  generation : d.generation = c.generation
  age : d.age = if result.verdict ∈ [.survive, .suspend] then c.age + 1 else c.age
  fitness : d.fitness = if result.verdict = .survive then result.total else c.fitness

namespace Selector

theorem settled_turns (result : Evaluation α) (c : Candidate α) :
    result.Turns c (settled result c) := by
  cases verdict : result.verdict <;> constructor <;> simp [settled, verdict]

theorem withVerdict_cons (verdicts : List Verdict) (c : Candidate α) (result : Evaluation α)
    (judged : List (Candidate α × Evaluation α)) :
    withVerdict verdicts ((c, result) :: judged) =
      if result.verdict ∈ verdicts then settled result c :: withVerdict verdicts judged
      else withVerdict verdicts judged := by
  by_cases sorted : result.verdict ∈ verdicts <;> simp [withVerdict, sorted]

/-- The verdicts sort judged candidates into three heaps without loss. -/
theorem withVerdict_perm (judged : List (Candidate α × Evaluation α)) :
    (withVerdict [.survive, .suspend] judged ++ withVerdict [.mutate] judged
      ++ withVerdict [.eliminate] judged) ~ (judged.map fun p => settled p.2 p.1) := by
  induction judged with
  | nil => exact .nil
  | cons p rest ih =>
    obtain ⟨c, result⟩ := p
    cases verdict : result.verdict with
    | survive | suspend =>
      simp only [withVerdict_cons, verdict, List.mem_cons, List.not_mem_nil, List.map_cons]
      exact ih.cons _
    | mutate =>
      simp only [withVerdict_cons, verdict, List.mem_cons, List.not_mem_nil, List.map_cons]
      exact (List.perm_middle.append_right _).trans (ih.cons _)
    | eliminate =>
      simp only [withVerdict_cons, verdict, List.mem_cons, List.not_mem_nil, List.map_cons]
      exact List.perm_middle.trans (ih.cons _)

/-- Candidates to be mutated or eliminated by their verdict stay as they are. -/
theorem withVerdict_unchanged [Scalar α] {verdict : Verdict} (out : verdict ∈ [.mutate, .eliminate])
    (selector : Selector α) (population : List (Candidate α)) :
    withVerdict [verdict] (population.zip (population.map selector.evaluate)) =
      population.filter fun c => (selector.evaluate c).verdict = verdict := by
  rw [withVerdict_zip, ← List.filterMap_eq_filter]
  refine List.filterMap_congr fun c _ => ?_
  simp only [List.mem_cons, List.not_mem_nil, or_false] at out
  by_cases same : (selector.evaluate c).verdict = verdict
  · rcases out with rfl | rfl <;> simp [same, settled, Option.guard]
  · simp [same, Option.guard]

end Selector

/-- How a round accounts for its population under a judgement of candidates. -/
structure Round.Accounts (round : Round α) (judge : Candidate α → Evaluation α)
    (population : List (Candidate α)) : Prop where
  candidates : round.candidates = population
  results : round.results = population.map judge
  /-- Every position is found exactly once in the three heaps, as its verdict leaves it. -/
  complete : ∃ outcomes, List.Forall₂ (fun c d => (judge c).Turns c d) population outcomes ∧
    (round.survivors ++ round.mutated ++ round.eliminated).Perm outcomes
  mutated : round.mutated = population.filter fun c => (judge c).verdict = .mutate
  /-- What is eliminated beside its verdict has been cut off by the limit. -/
  eliminated : ∃ overflow,
    round.eliminated = (population.filter fun c => (judge c).verdict = .eliminate) ++ overflow ∧
    ∀ d ∈ overflow, ∃ c ∈ population, (judge c).verdict ∈ [.survive, .suspend] ∧ (judge c).Turns c d

namespace Selector

variable [Scalar α] {selector : Selector α} {population : List (Candidate α)}

theorem select_complete (selector : Selector α) (population : List (Candidate α)) :
    let round := (selector.select population).1
    (round.survivors ++ round.mutated ++ round.eliminated).Perm
      (population.map fun c => settled (selector.evaluate c) c) := by
  intro round
  let judged := population.zip (population.map selector.evaluate)
  let standing := withVerdict [.survive, .suspend] judged
  let overflow := (cut selector.settings.populationLimit standing).2
  have paired : judged = population.map fun c => (c, selector.evaluate c) :=
    List.map_prod_left_eq_zip.symm
  have sorted := withVerdict_perm judged
  rw [congrArg (List.map _) paired, List.map_map] at sorted
  calc round.survivors ++ round.mutated ++ (withVerdict [.eliminate] judged ++ overflow)
    _ ~ round.survivors ++ (overflow ++ (round.mutated ++ withVerdict [.eliminate] judged)) := by
      rw [List.append_assoc, ← List.append_assoc round.mutated]
      exact List.perm_append_comm.append_left _
    _ = round.survivors ++ overflow ++ round.mutated ++ withVerdict [.eliminate] judged := by
      simp only [List.append_assoc]
    _ ~ standing ++ round.mutated ++ withVerdict [.eliminate] judged :=
      (cut_perm.append_right _).append_right _
    _ ~ population.map fun c => settled (selector.evaluate c) c := sorted

theorem select_accounts (selector : Selector α) (population : List (Candidate α)) :
    (selector.select population).1.Accounts selector.evaluate population := by
  constructor
  · rfl
  · rfl
  · refine ⟨_, ?_, select_complete selector population⟩
    rw [List.forall₂_map_right_iff, List.forall₂_same]
    intro c _
    exact settled_turns _ c
  · exact withVerdict_unchanged (by decide) selector population
  · refine ⟨_, congrArg (· ++ _) (withVerdict_unchanged (by decide) selector population), ?_⟩
    intro d lost
    have stood := cut_perm.mem_iff.mp (List.mem_append_right _ lost)
    rw [withVerdict_judged] at stood
    obtain ⟨c, member, stands⟩ := List.mem_filterMap.mp stood
    simp only [stands?, Option.ite_none_right_eq_some, Option.some.injEq] at stands
    obtain ⟨standing, rfl⟩ := stands
    exact ⟨c, member, standing, settled_turns _ c⟩

/-- Selection loses and invents nothing. A round accounts for its whole population, keeps survivors
within the limit, and goes to the end of a history that is otherwise as it was. -/
theorem select_loses_nothing (selector : Selector α) (population : List (Candidate α)) :
    let round := (selector.select population).1
    let next := (selector.select population).2
    round.Accounts selector.evaluate population ∧
      round.survivors.length ≤ selector.settings.populationLimit ∧
      next = { selector with history := selector.history ++ [round] } ∧
      next.history[round.generation]? = some round := by
  refine ⟨select_accounts selector population, ?_, rfl, ?_⟩
  · exact Nat.le_trans (Nat.le_of_eq cut_length) (Nat.min_le_left _ _)
  · exact List.getElem?_concat_length

end Selector
end FormulaLab
