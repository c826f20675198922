import FormulaLab.Population.Evolution
import FormulaLab.Proofs.Population.Judgement

/-! Rounds of selection as a relation. A round is fixed by the judgement of its selector, of which
history and ids are no part, so all rounds of an evolution are judged by the selector that began it. -/

namespace FormulaLab

variable {α : Type}

/-- The candidate one round later. -/
def Candidate.aged (c : Candidate α) : Candidate α := { c with age := c.age + 1 }

namespace Selector

variable [Scalar α]

/-- What a candidate that survives or is suspended becomes. -/
def stands? (selector : Selector α) (c : Candidate α) : Option (Candidate α) :=
  let result := selector.evaluate c
  if result.verdict ∈ [.survive, .suspend] then some (settled result c) else none

/-- The candidates that survive or are suspended, before the population limit. -/
def standing (selector : Selector α) (population : List (Candidate α)) : List (Candidate α) :=
  population.filterMap selector.stands?

/-- Survivors and overflow of a population. -/
def kept (selector : Selector α) (population : List (Candidate α)) :
    List (Candidate α) × List (Candidate α) :=
  cut selector.settings.populationLimit (selector.standing population)

/-- A round on a population, as far as it depends on the judgement of the selector. -/
structure Selects (selector : Selector α) (population : List (Candidate α)) (round : Round α) : Prop where
  candidates : round.candidates = population
  results : round.results = population.map selector.evaluate
  survivors : round.survivors = (selector.kept population).1
  overflow : ∀ c ∈ (selector.kept population).2, c ∈ round.eliminated

/-- Rounds of an evolution: each one on the survivors of the one before it and on as many offspring as
there were candidates to mutate, until their number is reached or nothing survives. -/
inductive Evolves (selector : Selector α) : Nat → List (Candidate α) → List (Round α) → Prop where
  | finished {population : List (Candidate α)} : Evolves selector 0 population []
  | stopped {count : Nat} {population : List (Candidate α)} {round : Round α} :
      selector.Selects population round → round.survivors = [] →
      Evolves selector (count + 1) population [round]
  | next {count : Nat} {population : List (Candidate α)} {round : Round α} {rounds : List (Round α)}
      (children : List (Candidate α)) : selector.Selects population round → round.survivors ≠ [] →
      children.length = round.mutated.length →
      Evolves selector count (round.survivors ++ children) rounds →
      Evolves selector (count + 1) population (round :: rounds)

/-- The past of a selector, its history and the ids given out, is no part of its settings. -/
def SameSettings (before after : Selector α) : Prop :=
  after = { before with history := after.history, nextId := after.nextId }

/-- How an evolution unfolds: its rounds, the offspring made after each of them and the selector that is
left. Offspring are made after the last round too, where something has survived it. -/
inductive Unfolds (mutator : Mutator α) : Nat → List (Candidate α) → Selector α → Nat →
    List (Round α) → List (List (Candidate α)) → Selector α → Prop where
  | finished {population : List (Candidate α)} {selector : Selector α} {n : Nat} :
      Unfolds mutator 0 population selector n [] [] selector
  | stopped {count : Nat} {population : List (Candidate α)} {selector after : Selector α} {n : Nat}
      {round : Round α} : selector.select population = (round, after) → round.survivors = [] →
      Unfolds mutator (count + 1) population selector n [round] [] after
  | next {count : Nat} {population children : List (Candidate α)}
      {selector after breeding last : Selector α} {n m : Nat} {round : Round α}
      {rounds : List (Round α)} {litters : List (List (Candidate α))} :
      selector.select population = (round, after) → round.survivors ≠ [] →
      offspring mutator round.mutated after n = ((children, breeding), m) →
      Unfolds mutator count (round.survivors ++ children) breeding m rounds litters last →
      Unfolds mutator (count + 1) population selector n (round :: rounds) (children :: litters) last

variable {selector : Selector α}

theorem withVerdict_zip (verdicts : List Verdict) (selector : Selector α)
    (population : List (Candidate α)) :
    withVerdict verdicts (population.zip (population.map selector.evaluate)) =
      population.filterMap fun c =>
        if (selector.evaluate c).verdict ∈ verdicts then some (settled (selector.evaluate c) c)
        else none := by
  rw [withVerdict, ← List.map_prod_left_eq_zip, List.filterMap_map]
  rfl

theorem withVerdict_judged (selector : Selector α) (population : List (Candidate α)) :
    withVerdict [.survive, .suspend] (population.zip (population.map selector.evaluate)) =
      selector.standing population :=
  withVerdict_zip [.survive, .suspend] selector population

omit [Scalar α] in
theorem SameSettings.trans {a b c : Selector α} (first : a.SameSettings b) (second : b.SameSettings c) :
    a.SameSettings c := by
  rw [SameSettings, second, first]

theorem select_sameSettings (selector : Selector α) (population : List (Candidate α)) :
    selector.SameSettings (selector.select population).2 := rfl

/-- A round of any past is judged by the rest of the selector. -/
theorem select_selects {present : Selector α} (same : selector.SameSettings present)
    (population : List (Candidate α)) : selector.Selects population (present.select population).1 := by
  rw [same]
  constructor
  · rfl
  · rfl
  · rw [kept, ← withVerdict_judged]
    rfl
  · intro c member
    rw [kept, ← withVerdict_judged] at member
    exact List.mem_append_right _ member

omit [Scalar α] in
/-- One child per parent, and as many ids used up. -/
theorem offspring_spec (mutator : Mutator α) (parents : List (Candidate α)) (selector : Selector α)
    (n : Nat) :
    let r := (offspring mutator parents selector n).1
    r.1.length = parents.length ∧ r.2 = { selector with nextId := selector.nextId + parents.length } := by
  induction parents generalizing selector n with
  | nil => exact ⟨rfl, rfl⟩
  | cons parent rest ih =>
    cases drawn : mutator parent n with
    | mk child m =>
      obtain ⟨count, same⟩ := ih { selector with nextId := selector.nextId + 1 } m
      simp only [offspring, bind, StateT.bind, drawn]
      refine ⟨congrArg Nat.succ count, same.trans ?_⟩
      rw [List.length_cons, Nat.add_right_comm]
      rfl

omit [Scalar α] in
theorem offspring_sameSettings (mutator : Mutator α) (parents : List (Candidate α))
    (selector : Selector α) (n : Nat) :
    selector.SameSettings (offspring mutator parents selector n).1.2 := by
  rw [SameSettings, (offspring_spec mutator parents selector n).2]

theorem exists_unfolds (mutator : Mutator α) (count : Nat) (population : List (Candidate α))
    (selector : Selector α) (n : Nat) :
    let unfolded := (evolveRounds mutator count population selector n).1
    ∃ litters, Unfolds mutator count population selector n unfolded.1 litters unfolded.2 := by
  induction count generalizing population selector n with
  | zero => exact ⟨[], .finished⟩
  | succ count ih =>
    cases selected : selector.select population with
    | mk round after =>
      simp only [evolveRounds, selected]
      split
      next empty => exact ⟨[], .stopped selected (List.isEmpty_iff.mp empty)⟩
      next survived =>
        cases made : offspring mutator round.mutated after n with
        | mk litter m =>
          obtain ⟨children, breeding⟩ := litter
          obtain ⟨litters, run⟩ := ih (round.survivors ++ children) breeding m
          refine ⟨children :: litters, ?_⟩
          simp only [bind, StateT.bind, made]
          exact .next selected (fun empty => survived (List.isEmpty_iff.mpr empty)) made run

/-- An evolution of any past is one of the rest of the selector. -/
theorem Unfolds.evolves {mutator : Mutator α} {count : Nat} {population : List (Candidate α)}
    {present last : Selector α} {n : Nat} {rounds : List (Round α)} {litters : List (List (Candidate α))}
    (run : Unfolds mutator count population present n rounds litters last)
    (same : selector.SameSettings present) : selector.Evolves count population rounds := by
  induction run with
  | finished => exact .finished
  | @stopped _ population present _ _ _ selected empty =>
    have selects := select_selects same population
    rw [selected] at selects
    exact .stopped selects empty
  | @next _ population children present after _ _ n _ round _ _ selected survived made _ ih =>
    have selects := select_selects same population
    have onwards := same.trans (select_sameSettings present population)
    have replaced := (offspring_spec mutator round.mutated after n).1
    have bred := offspring_sameSettings mutator round.mutated after n
    rw [selected] at selects onwards
    rw [made] at replaced bred
    exact .next children selects survived replaced (ih (onwards.trans bred))

/-- The rounds of an evolution from any history and any next id. -/
theorem evolveRounds_evolves (selector : Selector α) (mutator : Mutator α) (count : Nat)
    (population : List (Candidate α)) (history : List (Round α)) (nextId n : Nat) :
    selector.Evolves count population
      (evolveRounds mutator count population { selector with history, nextId } n).1.1 := by
  obtain ⟨litters, run⟩ := exists_unfolds mutator count population { selector with history, nextId } n
  exact run.evolves rfl

end Selector
end FormulaLab
