import FormulaLab.Proofs.Population.Lineage

/-! Ages. Generation and age of a candidate add up to the number of rounds before the one it takes part
in. A round makes those older that stay in the running, and stamps offspring for the round to come. -/

namespace FormulaLab

variable {α : Type}

/-- Ages and generations in a round, as its number has them. -/
structure Round.Dated (round : Round α) (judge : Candidate α → Evaluation α) : Prop where
  candidates : ∀ c ∈ round.candidates, c.age + c.generation = round.generation
  survivors : ∀ c ∈ round.survivors, c.age + c.generation = round.generation + 1
  /-- What is eliminated beside its verdict has been cut off by the limit. -/
  overflow : ∃ overflow,
    round.eliminated = (round.candidates.filter fun c => (judge c).verdict = .eliminate) ++ overflow ∧
    ∀ c ∈ overflow, c.age + c.generation = round.generation + 1

theorem Evaluation.Turns.older {result : Evaluation α} {c d : Candidate α} (turns : result.Turns c d)
    (stands : result.verdict ∈ [.survive, .suspend]) :
    d.age + d.generation = c.age + c.generation + 1 := by
  rw [turns.age, turns.generation, if_pos stands]
  omega

namespace Selector

variable [Scalar α] {mutator : Mutator α} {count : Nat} {population : List (Candidate α)}
  {selector start last : Selector α} {n : Nat} {rounds : List (Round α)}
  {litters : List (List (Candidate α))}

theorem select_records {after : Selector α} {round : Round α}
    (selected : selector.select population = (round, after)) :
    round.generation = selector.history.length ∧
      after.history.length = selector.history.length + 1 := by
  cases selected
  exact ⟨rfl, List.length_append⟩

/-- Survivors are candidates that stand by their verdict, one round later. -/
theorem survivor_turns {d : Candidate α} (survives : d ∈ (selector.select population).1.survivors) :
    ∃ c ∈ population, (selector.evaluate c).verdict ∈ [.survive, .suspend] ∧
      (selector.evaluate c).Turns c d := by
  have same : selector.SameSettings selector := rfl
  rw [(select_selects same population).survivors] at survives
  obtain ⟨c, member, stands⟩ := List.mem_filterMap.mp (mem_of_mem_cut survives)
  simp only [stands?, Option.ite_none_right_eq_some, Option.some.injEq] at stands
  obtain ⟨standing, rfl⟩ := stands
  exact ⟨c, member, standing, settled_turns _ c⟩

theorem select_dated (dated : ∀ c ∈ population, c.age + c.generation = selector.history.length) :
    (selector.select population).1.Dated selector.evaluate := by
  constructor
  · exact dated
  · intro d survives
    obtain ⟨c, member, stands, turns⟩ := survivor_turns survives
    rw [turns.older stands, dated c member]
    rfl
  · obtain ⟨overflow, eliminated, lost⟩ := (select_accounts selector population).eliminated
    refine ⟨overflow, eliminated, fun d cutOff => ?_⟩
    obtain ⟨c, member, stands, turns⟩ := lost d cutOff
    rw [turns.older stands, dated c member]
    rfl

omit [Scalar α] in
/-- Whatever age and generation a mutator gives them, offspring are new in the round to come. -/
theorem offspring_dated (mutator : Mutator α) (parents : List (Candidate α)) (selector : Selector α)
    (n : Nat) : ∀ c ∈ (offspring mutator parents selector n).1.1,
      c.age + c.generation = selector.history.length := by
  induction parents generalizing selector n with
  | nil => exact fun _ member => absurd member List.not_mem_nil
  | cons parent rest ih =>
    cases drawn : mutator parent n with
    | mk child m =>
      have others := ih { selector with nextId := selector.nextId + 1 } m
      simp only [offspring, bind, StateT.bind, drawn]
      exact List.forall_mem_cons.mpr ⟨Nat.zero_add _, others⟩

/-- Survivors and offspring of a round are dated for the next one. -/
theorem successors_dated {after breeding : Selector α} {round : Round α}
    {children : List (Candidate α)} {m : Nat} (selected : selector.select population = (round, after))
    (made : offspring mutator round.mutated after n = ((children, breeding), m))
    (dated : ∀ c ∈ population, c.age + c.generation = selector.history.length) :
    breeding.history.length = selector.history.length + 1 ∧
      ∀ c ∈ round.survivors ++ children, c.age + c.generation = breeding.history.length := by
  obtain ⟨numbered, grown⟩ := select_records selected
  have kept := congrArg history (offspring_spec mutator round.mutated after n).2
  have bred := offspring_dated mutator round.mutated after n
  have older := (select_dated dated).survivors
  rw [made] at kept bred
  rw [selected] at older
  dsimp only at kept bred older
  rw [kept]
  refine ⟨grown, fun c member => ?_⟩
  rcases List.mem_append.mp member with survivor | child
  · rw [older c survivor, numbered, grown]
  · exact bred c child

/-- The rounds of an evolution are numbered on from the history, and each is dated by its number. -/
theorem Unfolds.dated (run : Unfolds mutator count population selector n rounds litters last)
    (same : start.SameSettings selector)
    (dated : ∀ c ∈ population, c.age + c.generation = selector.history.length) :
    rounds.map (·.generation) = List.range' selector.history.length rounds.length ∧
      ∀ round ∈ rounds, round.Dated start.evaluate := by
  induction run with
  | finished => exact ⟨rfl, fun _ member => absurd member List.not_mem_nil⟩
  | stopped selected =>
    have first := select_dated dated
    rw [selected, same] at first
    exact ⟨congrArg ([·]) (select_records selected).1, List.forall_mem_singleton.mpr first⟩
  | @next _ population _ selector after _ _ n _ round _ _ selected _ made _ ih =>
    have first := select_dated dated
    have onwards := same.trans (select_sameSettings selector population)
    have bred := offspring_sameSettings mutator round.mutated after n
    obtain ⟨grown, successors⟩ := successors_dated selected made dated
    rw [selected] at first onwards
    rw [made] at bred
    obtain ⟨numbered, later⟩ := ih (onwards.trans bred) successors
    rw [same] at first
    refine ⟨?_, List.forall_mem_cons.mpr ⟨first, later⟩⟩
    rw [List.map_cons, numbered, grown, (select_records selected).1, List.length_cons,
      List.range'_succ]

/-- Ages are exact across generations. From a population in which age and generation add up to the number
of rounds on record, as they do for a new candidate, they add up in every round to the number of the
round, and to one more for its survivors and for those that the limit cuts off. -/
theorem evolve_keeps_ages (selector : Selector α) (mutator : Mutator α) (generations : Nat)
    {population : List (Candidate α)}
    (dated : ∀ c ∈ population, c.age + c.generation = selector.history.length) (n : Nat) :
    let rounds := (evolve mutator generations population selector n).1.1.rounds
    (∀ analysis fitness, let c := (selector.candidate analysis fitness).1
      c.age + c.generation = selector.history.length) ∧
    rounds.map (·.generation) = List.range' selector.history.length rounds.length ∧
    ∀ round ∈ rounds, round.Dated selector.evaluate := by
  obtain ⟨litters, run⟩ := exists_unfolds mutator generations population selector n
  exact ⟨fun _ _ => Nat.zero_add _, run.dated rfl dated⟩

/-- In each round the weak candidate is replaced by an offspring, to which the mutator gives an age and a
generation of its own. -/
theorem evolve_keeps_ages_energetic :
    let mutator : Mutator Float := fun parent => pure { parent with age := 7, generation := 9 }
    let rounds := (evolve mutator 3 constantPair energetic 1).1.1.rounds
    (∀ c ∈ constantPair, c.age + c.generation = energetic.history.length) ∧
      (∀ round ∈ rounds, round.survivors.length = 1 ∧ round.mutated.length = 1) ∧
      rounds.map (·.generation) = [0, 1, 2] ∧ ∀ round ∈ rounds, round.Dated energetic.evaluate := by
  intro mutator rounds
  have dated : ∀ c ∈ constantPair, c.age + c.generation = energetic.history.length := by decide
  have three : rounds.length = 3 := by decide +kernel
  have sorted : ∀ round ∈ rounds, round.survivors.length = 1 ∧ round.mutated.length = 1 := by
    decide +kernel
  obtain ⟨-, numbered, each⟩ := evolve_keeps_ages energetic mutator 3 dated 1
  rw [three] at numbered
  exact ⟨dated, sorted, numbered, each⟩

end Selector
end FormulaLab
