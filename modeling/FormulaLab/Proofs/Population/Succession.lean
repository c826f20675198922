import FormulaLab.Proofs.Population.Lineage

/-! Succession. The rounds of an evolution follow on one another and are what it adds to the history: a
round is on the survivors of the one before it and on one offspring for each candidate marked there, and
only the last round may be without survivors. -/

namespace FormulaLab

variable {α : Type}

/-- The child is what the mutator made of the parent at some number of ids drawn, but for its own id and
the stamp of a new candidate of that generation. -/
def Candidate.Bred (mutator : Mutator α) (generation : Nat) (parent child : Candidate α) : Prop :=
  ∃ n, child = { (mutator parent n).1 with id := child.id, generation, age := 0 }

/-- How a later round follows on an earlier one. The ids of offspring are handed out from `lowest` on. -/
structure Round.Follows (mutator : Mutator α) (lowest : Nat) (earlier later : Round α) : Prop where
  /-- Survivors come first, then one child for each candidate marked for mutation, both in order. -/
  candidates : ∃ children, later.candidates = earlier.survivors ++ children ∧
    List.Forall₂ (Candidate.Bred mutator later.generation) earlier.mutated children ∧
    ∃ first, lowest ≤ first ∧ children.map (·.id) = List.range' first children.length
  numbered : later.generation = earlier.generation + 1
  /-- The population does not grow. -/
  shrinks : later.candidates.length ≤ earlier.candidates.length

/-- What an evolution of at most `generations` rounds says about the selector before and after it. -/
structure Evolution.Linked [Scalar α] (mutator : Mutator α) (generations : Nat)
    (population : List (Candidate α)) (before after : Selector α) (evolution : Evolution α) :
    Prop where
  /-- The rounds are what the history has grown by. -/
  recorded : after.history = before.history ++ evolution.rounds
  bounded : evolution.rounds.length ≤ generations
  opens : ∀ round ∈ evolution.rounds.head?, round.candidates = population
  follow : evolution.rounds.IsChain (Round.Follows mutator before.nextId)
  survived : ∀ round ∈ evolution.rounds.dropLast, round.survivors ≠ []
  stopped : evolution.rounds.length < generations →
    ∃ last, evolution.rounds.getLast? = some last ∧ last.survivors = []
  final : evolution.finalPopulation = (evolution.rounds.getLast?.map (·.survivors)).getD []
  fittest : ∀ best, evolution.best = some best →
    Fitness.LastFittest evolution.finalPopulation best
  extinct : evolution.best = none ↔ evolution.finalPopulation = []
  /-- The selector reports the same candidate as its best one. -/
  reported : 0 < generations → after.best? = evolution.best

namespace Selector

variable {mutator : Mutator α} {count lowest : Nat} {population : List (Candidate α)}
  {selector after last : Selector α} {n : Nat} {rounds : List (Round α)}
  {litters : List (List (Candidate α))}

theorem offspring_bred (mutator : Mutator α) (parents : List (Candidate α)) (selector : Selector α)
    (n : Nat) :
    List.Forall₂ (Candidate.Bred mutator selector.history.length) parents
      (offspring mutator parents selector n).1.1 := by
  induction parents generalizing selector n with
  | nil => exact .nil
  | cons parent rest ih =>
    cases drawn : mutator parent n with
    | mk child m =>
      have others := ih { selector with nextId := selector.nextId + 1 } m
      simp only [offspring, bind, StateT.bind, drawn]
      exact .cons ⟨n, by rw [drawn]⟩ others

variable [Scalar α]

/-- Survivors and candidates to mutate are different members of the population. -/
theorem survivors_mutated_length (selector : Selector α) (population : List (Candidate α)) :
    (selector.select population).1.survivors.length +
      (selector.select population).1.mutated.length ≤ population.length := by
  have whole := (select_complete selector population).length_eq
  simp only [List.length_append, List.length_map] at whole
  omega

/-- What one round hands on to the next population. -/
theorem select_hands_on {breeding : Selector α} {round next : Round α}
    {children : List (Candidate α)} {m : Nat} (selected : selector.select population = (round, after))
    (made : offspring mutator round.mutated after n = ((children, breeding), m))
    (known : lowest ≤ selector.nextId) (entered : next.candidates = round.survivors ++ children)
    (numbered : next.generation = breeding.history.length) :
    round.Follows mutator lowest next := by
  have bred := offspring_bred mutator round.mutated after n
  have spec := offspring_spec mutator round.mutated after n
  have few := survivors_mutated_length selector population
  have ids := (litter_ids selected made).2
  rw [made] at bred spec
  rw [selected] at few
  cases selected
  obtain ⟨many, kept⟩ := spec
  dsimp only at bred many kept few
  have history := congrArg history kept
  have rounds : next.generation = selector.history.length + 1 := by
    rw [numbered, history]
    exact List.length_append
  constructor
  · refine ⟨children, entered, ?_, selector.nextId, known, ?_⟩
    · rw [numbered, history]
      exact bred
    · rw [many]
      exact ids
  · exact rounds
  · rw [entered, List.length_append, many]
    exact few

namespace Unfolds

theorem recorded (run : Unfolds mutator count population selector n rounds litters last) :
    last.history = selector.history ++ rounds := by
  induction run with
  | finished => exact (List.append_nil _).symm
  | stopped selected =>
    cases selected
    rfl
  | @next _ population children selector after breeding _ n _ round _ _ selected _ made _ ih =>
    have kept := congrArg history (offspring_spec mutator round.mutated after n).2
    rw [made] at kept
    cases selected
    rw [ih, kept]
    exact List.append_assoc _ _ _

theorem length_le (run : Unfolds mutator count population selector n rounds litters last) :
    rounds.length ≤ count := by
  induction run with
  | finished => exact Nat.le_refl 0
  | stopped => exact Nat.succ_le_succ (Nat.zero_le _)
  | next _ _ _ _ ih => exact Nat.succ_le_succ ih

theorem opens (run : Unfolds mutator count population selector n rounds litters last) :
    ∀ round ∈ rounds.head?,
      round.candidates = population ∧ round.generation = selector.history.length := by
  intro round head
  cases run with
  | finished => contradiction
  | stopped selected =>
    cases selected
    cases head
    exact ⟨rfl, rfl⟩
  | next selected =>
    cases selected
    cases head
    exact ⟨rfl, rfl⟩

theorem follow (run : Unfolds mutator count population selector n rounds litters last)
    (known : lowest ≤ selector.nextId) : rounds.IsChain (Round.Follows mutator lowest) := by
  induction run with
  | finished => exact .nil
  | stopped => exact .singleton _
  | next selected _ made rest ih =>
    have reached := (litter_ids selected made).1
    refine .cons (ih (by omega)) ?_
    intro later head
    obtain ⟨entered, numbered⟩ := rest.opens later head
    exact select_hands_on selected made known entered numbered

/-- Offspring are bred after rounds with survivors only, and the last round has no successor. -/
theorem survived (run : Unfolds mutator count population selector n rounds litters last) :
    ∀ round ∈ rounds.dropLast, round.survivors ≠ [] := by
  induction run with
  | finished => simp
  | stopped => simp
  | @next _ _ _ _ _ _ _ _ _ _ rounds _ _ survived _ _ ih =>
    cases rounds with
    | nil => simp
    | cons later rest =>
      rw [List.dropLast_cons_cons, List.forall_mem_cons]
      exact ⟨survived, ih⟩

theorem stopped_empty (run : Unfolds mutator count population selector n rounds litters last)
    (early : rounds.length < count) :
    ∃ final, rounds.getLast? = some final ∧ final.survivors = [] := by
  induction run with
  | finished => contradiction
  | stopped _ empty => exact ⟨_, rfl, empty⟩
  | next _ _ _ _ ih =>
    obtain ⟨final, found, empty⟩ := ih (Nat.lt_of_succ_lt_succ early)
    refine ⟨final, ?_, empty⟩
    rw [List.getLast?_cons, found]
    rfl

theorem ne_nil (run : Unfolds mutator count population selector n rounds litters last)
    (some : 0 < count) : rounds ≠ [] := by
  cases run with
  | finished => contradiction
  | stopped => exact List.cons_ne_nil _ _
  | next => exact List.cons_ne_nil _ _

end Unfolds

variable [Scalar.TotalOrder α]

/-- Evolution links its rounds. For every selector, population, mutator and number of generations, the
rounds follow on one another and go to the end of the history, and the final population and its fittest
candidate are those of the last round, as the selector reports them afterwards. -/
theorem evolve_links (selector : Selector α) (mutator : Mutator α) (generations : Nat)
    (population : List (Candidate α)) (n : Nat) :
    let evolved := (evolve mutator generations population selector n).1
    evolved.1.Linked mutator generations population selector evolved.2 := by
  obtain ⟨litters, run⟩ := exists_unfolds mutator generations population selector n
  intro evolved
  change Unfolds mutator generations population selector n evolved.1.rounds litters evolved.2 at run
  constructor
  case recorded => exact run.recorded
  case bounded => exact run.length_le
  case opens => exact fun round head => (run.opens round head).1
  case follow => exact run.follow (Nat.le_refl _)
  case survived => exact run.survived
  case stopped => exact run.stopped_empty
  case final => rfl
  case fittest => exact fun best found => Fitness.fittest?_last found
  case extinct => exact Fitness.fittest?_eq_none_iff
  case reported =>
    intro some
    have last : evolved.2.history.getLast? = evolved.1.rounds.getLast? := by
      rw [run.recorded, List.getLast?_append_of_ne_nil _ (run.ne_nil some)]
    rw [best?, last]
    change _ = Fitness.fittest? ((evolved.1.rounds.getLast?.map (·.survivors)).getD [])
    cases evolved.1.rounds.getLast? with
    | none => rfl
    | some round => rfl

/-- Three rounds in which the weak candidate is replaced, whatever stamp its offspring come with. -/
theorem evolve_links_energetic :
    let mutator : Mutator Float := fun parent => pure { parent with id := 0, age := 7, generation := 9 }
    let evolved := (evolve mutator 3 constantPair energetic 1).1
    evolved.1.rounds.length = 3 ∧ evolved.1.best.isSome ∧ (∀ round ∈ evolved.1.rounds,
      round.mutated.length = 1) ∧
      evolved.1.Linked mutator 3 constantPair energetic evolved.2 := by
  intro mutator evolved
  have three : evolved.1.rounds.length = 3 := by decide +kernel
  have best : evolved.1.best.isSome := by decide +kernel
  have weak : ∀ round ∈ evolved.1.rounds, round.mutated.length = 1 := by decide +kernel
  exact ⟨three, best, weak, evolve_links energetic mutator 3 constantPair 1⟩

end Selector
end FormulaLab
