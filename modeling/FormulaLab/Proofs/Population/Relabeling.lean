import FormulaLab.Proofs.Formula.Renaming
import FormulaLab.Proofs.Population.Rounds

/-! Labels of a population: node ids, candidate ids and generation numbers. They follow from the past of
a selector, and nothing that a selector decides depends on them, so rounds and evolutions from two
pasts differ in their labels alone. -/

namespace FormulaLab

open Fresh (Corresponds)

variable {α : Type}

/-- Node ids are renamed; candidate ids and generation numbers are shifted. -/
structure Relabeling where
  names : String → String
  candidates : Nat
  generations : Nat

def Json.shifted (amount : Nat) : Json → Json
  | .int n => .int (n + amount)
  | other => other

/-- Notes with the candidate id in the note on the parent shifted. -/
def Relabeling.notes (labels : Relabeling) (notes : Json.Members) : Json.Members :=
  notes.map fun (name, note) =>
    (name, if name = "parent" then note.shifted labels.candidates else note)

def Candidate.relabel (labels : Relabeling) (c : Candidate α) : Candidate α :=
  { c with
    id := c.id + labels.candidates
    analysis := c.analysis.rename labels.names
    metadata := labels.notes c.metadata
    generation := c.generation + labels.generations }

def Evaluation.relabel (labels : Relabeling) (result : Evaluation α) : Evaluation α :=
  { result with candidateId := result.candidateId + labels.candidates }

def Round.relabel (labels : Relabeling) (round : Round α) : Round α :=
  { round with
    generation := round.generation + labels.generations
    candidates := round.candidates.map (·.relabel labels)
    results := round.results.map (·.relabel labels)
    survivors := round.survivors.map (·.relabel labels)
    eliminated := round.eliminated.map (·.relabel labels)
    mutated := round.mutated.map (·.relabel labels) }

def Evolution.relabel (labels : Relabeling) (evolution : Evolution α) : Evolution α where
  rounds := evolution.rounds.map (·.relabel labels)
  finalPopulation := evolution.finalPopulation.map (·.relabel labels)
  best := evolution.best.map (·.relabel labels)

variable {labels : Relabeling}

theorem Relabeling.notes_insert (notes : Json.Members) (name : String) (note : Json) :
    labels.notes (notes.insert name note) = (labels.notes notes).insert name
      (if name = "parent" then note.shifted labels.candidates else note) := by
  induction notes with
  | nil => rfl
  | cons entry rest ih =>
    obtain ⟨other, old⟩ := entry
    simp only [Json.Members.insert, notes, List.map_cons]
    split
    · rfl
    · rw [List.map_cons]
      exact congrArg _ ih

theorem Candidate.relabel_withMetadata (c : Candidate α) (name : String) (note : Json) :
    (c.withMetadata name note).relabel labels = (c.relabel labels).withMetadata name
      (if name = "parent" then note.shifted labels.candidates else note) := by
  simp only [Candidate.relabel, Candidate.withMetadata, Relabeling.notes_insert]

variable [Scalar α]

/-! The statistics of a population see its fitness alone. -/

namespace Fitness

theorem average_relabel (population : List (Candidate α)) :
    average (population.map (·.relabel labels)) = average population := by
  simp only [average, List.isEmpty_map, List.map_map, List.length_map]
  rfl

theorem diversity_relabel (precision : α) (population : List (Candidate α)) :
    diversity precision (population.map (·.relabel labels)) = diversity precision population := by
  simp only [diversity, average_relabel, List.map_map, List.length_map]
  rfl

theorem fittest?_relabel (population : List (Candidate α)) :
    fittest? (population.map (·.relabel labels)) = (fittest? population).map (·.relabel labels) := by
  cases population with
  | nil => rfl
  | cons first rest =>
    simp only [fittest?, List.map_cons, Option.map_some]
    congr 1
    induction rest generalizing first with
    | nil => rfl
    | cons c rest ih =>
      rw [List.map_cons, List.foldl_cons, List.foldl_cons, ← ih]
      congr 1
      change (if Scalar.totalLt c.fitness first.fitness then _ else _) = _
      split <;> rfl

end Fitness

namespace Selector

/-- The labels of candidates do not count for the judgement of the selector. -/
def Blind (selector : Selector α) (labels : Relabeling) : Prop :=
  ∀ c : Candidate α, selector.Confuses (c.relabel labels) c

/-- Selectors with the settings of another one that differ in their past alone, by these labels. -/
structure Shifted (base : Selector α) (labels : Relabeling) (a b : Selector α) : Prop where
  first : base.SameSettings a
  second : base.SameSettings b
  nextId : b.nextId = a.nextId + labels.candidates
  history : b.history.length = a.history.length + labels.generations

variable {base a b : Selector α}

theorem evaluate_relabel (blind : base.Blind labels) (shifted : base.Shifted labels a b)
    (c : Candidate α) : b.evaluate (c.relabel labels) = (a.evaluate c).relabel labels := by
  have known : (base.evaluate c).candidateId = c.id := by
    unfold evaluate
    split <;> rfl
  rw [shifted.first, shifted.second]
  change base.evaluate (c.relabel labels) = (base.evaluate c).relabel labels
  rw [(blind c).evaluate, Evaluation.relabel, known]
  rfl

omit [Scalar α] in
theorem settled_relabel (result : Evaluation α) (c : Candidate α) :
    settled (result.relabel labels) (c.relabel labels) = (settled result c).relabel labels := by
  cases verdict : result.verdict <;> simp only [settled, Evaluation.relabel, Candidate.relabel, verdict]

theorem withVerdict_relabel (blind : base.Blind labels) (shifted : base.Shifted labels a b)
    (verdicts : List Verdict) (population : List (Candidate α)) :
    let relabeled := population.map (·.relabel labels)
    withVerdict verdicts (relabeled.zip (relabeled.map b.evaluate)) =
      (withVerdict verdicts (population.zip (population.map a.evaluate))).map (·.relabel labels) := by
  intro relabeled
  rw [withVerdict_zip, withVerdict_zip, List.filterMap_map, List.map_filterMap]
  refine List.filterMap_congr fun c _ => ?_
  simp only [Function.comp_apply, evaluate_relabel blind shifted]
  change (if (a.evaluate c).verdict ∈ verdicts then _ else none) = _
  rw [settled_relabel]
  split
  · rfl
  · rfl

theorem cut_relabel (limit : Nat) (candidates : List (Candidate α)) :
    cut limit (candidates.map (·.relabel labels)) =
      ((cut limit candidates).1.map (·.relabel labels),
        (cut limit candidates).2.map (·.relabel labels)) := by
  unfold cut
  rw [List.length_map]
  split
  · rw [List.splitAt_eq, List.splitAt_eq, List.map_take, List.map_drop, List.map_mergeSort]
    intro c _ d _
    rfl
  · rfl

/-- A round of another past is the same round under other labels. -/
theorem select_relabel (blind : base.Blind labels) (shifted : base.Shifted labels a b)
    (population : List (Candidate α)) :
    (b.select (population.map (·.relabel labels))).1 = (a.select population).1.relabel labels ∧
      base.Shifted labels (a.select population).2 (b.select (population.map (·.relabel labels))).2 := by
  have results : (population.map (·.relabel labels)).map b.evaluate =
      (population.map a.evaluate).map (·.relabel labels) := by
    rw [List.map_map, List.map_map]
    exact List.map_congr_left fun c _ => evaluate_relabel blind shifted c
  have settings : b.settings = a.settings := by rw [shifted.first, shifted.second]
  constructor
  · simp only [select, Round.relabel, withVerdict_relabel blind shifted, cut_relabel, settings,
      shifted.history, Fitness.average_relabel, Fitness.diversity_relabel, List.map_append]
    rw [results]
  · constructor
    · exact shifted.first.trans (select_sameSettings _ _)
    · exact shifted.second.trans (select_sameSettings _ _)
    · exact shifted.nextId
    · simp only [select, List.length_append, List.length_singleton, shifted.history]
      omega

/-- The mutator makes the same offspring of a candidate under other labels. -/
def Ignores (mutator : Mutator α) (labels : Relabeling) : Prop :=
  ∀ parent, Corresponds (Named labels.names) (fun c d => d = Candidate.relabel labels c)
    (mutator parent) (mutator (parent.relabel labels))

variable {mutator : Mutator α}

omit [Scalar α] in
theorem offspring_relabel (ignores : Ignores mutator labels) (parents : List (Candidate α))
    (shifted : base.Shifted labels a b) :
    Corresponds (Named labels.names)
      (fun x y => y.1 = x.1.map (·.relabel labels) ∧ base.Shifted labels x.2 y.2)
      (offspring mutator parents a) (offspring mutator (parents.map (·.relabel labels)) b) := by
  induction parents generalizing a b with
  | nil => exact .pure ⟨rfl, shifted⟩
  | cons parent rest ih =>
    rw [List.map_cons]
    unfold offspring
    refine (ignores parent).bind fun child child' same => ?_
    have next : base.Shifted labels { a with nextId := a.nextId + 1 }
        { b with nextId := b.nextId + 1 } := by
      constructor
      · exact shifted.first.trans rfl
      · exact shifted.second.trans rfl
      · simp only [shifted.nextId]
        omega
      · exact shifted.history
    apply (ih next).bind
    rintro ⟨others, after⟩ ⟨others', after'⟩ ⟨renewed, last⟩
    refine .pure ⟨?_, last⟩
    simp only at renewed
    rw [List.map_cons, renewed, same]
    simp only [Candidate.relabel, shifted.nextId, shifted.history]

/-- Rounds from another past are the same rounds under other labels. -/
theorem evolveRounds_relabel (ignores : Ignores mutator labels) (blind : base.Blind labels) (count : Nat)
    (population : List (Candidate α)) (shifted : base.Shifted labels a b) :
    Corresponds (Named labels.names)
      (fun x y => y.1 = x.1.map (·.relabel labels) ∧ base.Shifted labels x.2 y.2)
      (evolveRounds mutator count population a)
      (evolveRounds mutator count (population.map (·.relabel labels)) b) := by
  induction count generalizing population a b with
  | zero => exact .pure ⟨rfl, shifted⟩
  | succ count ih =>
    obtain ⟨same, next⟩ := select_relabel blind shifted population
    cases selected : a.select population with
    | mk round after =>
      cases selected' : b.select (population.map (·.relabel labels)) with
      | mk round' after' =>
        rw [selected, selected'] at same next
        simp only at same
        subst same
        simp only [evolveRounds, selected, selected', Round.relabel, List.isEmpty_map]
        split
        · exact .pure ⟨rfl, next⟩
        · apply (offspring_relabel ignores round.mutated next).bind
          rintro ⟨children, breeding⟩ ⟨children', breeding'⟩ ⟨renewed, bred⟩
          simp only at renewed
          subst renewed
          have later := ih (round.survivors ++ children) bred
          rw [List.map_append] at later
          apply later.bind
          rintro ⟨rounds, last⟩ ⟨rounds', last'⟩ ⟨others, done⟩
          simp only at others
          subst others
          exact .pure ⟨rfl, done⟩

/-- An evolution from another past is the same evolution under other labels. -/
theorem evolve_relabel (ignores : Ignores mutator labels) (blind : base.Blind labels)
    (generations : Nat) (population : List (Candidate α)) (shifted : base.Shifted labels a b) :
    Corresponds (Named labels.names)
      (fun x y => y.1 = x.1.relabel labels ∧ base.Shifted labels x.2 y.2)
      (evolve mutator generations population a)
      (evolve mutator generations (population.map (·.relabel labels)) b) := by
  apply (evolveRounds_relabel ignores blind generations population shifted).bind
  rintro ⟨rounds, last⟩ ⟨rounds', last'⟩ ⟨others, done⟩
  simp only at others
  subst others
  refine .pure ⟨?_, done⟩
  have final : (((rounds.map (Round.relabel labels)).getLast?).map (·.survivors)).getD [] =
      ((rounds.getLast?.map (·.survivors)).getD []).map (·.relabel labels) := by
    rw [List.getLast?_map]
    cases rounds.getLast? <;> rfl
  simp only [Evolution.relabel, final, Fitness.fittest?_relabel]

/-- The standard criteria and constraints look at what is the same under other labels. -/
theorem standard_blind {settings : SelectionSettings α} {selector : Selector α}
    (made : standard settings = .ok selector) (distinct : Function.Injective labels.names) :
    selector.Blind labels := by
  obtain ⟨criteria, constraints, added, built, rfl⟩ := standard_made made
  let P (scorer : Candidate α → α) : Prop := ∀ c : Candidate α, scorer (c.relabel labels) = scorer c
  have standard : ∀ criterion ∈ Criterion.standard (α := α), P criterion.scorer := by
    intro criterion member c
    simp only [Criterion.standard, List.mem_cons, List.not_mem_nil, or_false] at member
    rcases member with rfl | rfl | rfl | rfl
    · rfl
    · rfl
    · rfl
    · exact Formula.rename_verify distinct c.formula
  intro c
  constructor
  · intro criterion member
    exact CriteriaSet.addAll_scorers (by simp [CriteriaSet.empty]) standard added criterion member c
  · intro constraint member
    have among := List.mem_map_of_mem (f := fun c : Constraint α => c.holds) member
    rw [Constraint.standard_holds built] at among
    simp only [List.mem_cons, List.not_mem_nil, or_false] at among
    rcases among with holds | holds | holds <;> rw [holds] <;> rfl

end Selector
end FormulaLab
