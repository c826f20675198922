import FormulaLab.Proofs.Population.Ranking
import Mathlib.Data.List.Basic

/-! Judgement of candidates. A broken hard constraint settles it. Selectors that look at nothing but the
analysis of a candidate, as the standard ones do, do not change their judgement of it with its age,
fitness, generation and id. -/

namespace FormulaLab

variable {α : Type}

/-- The scorer looks at nothing but the analysis. -/
def Criterion.Analytic (criterion : Criterion α) : Prop :=
  ∀ c d : Candidate α, c.analysis = d.analysis → criterion.scorer c = criterion.scorer d

/-- The condition looks at nothing but the analysis. -/
def Constraint.Analytic (constraint : Constraint α) : Prop :=
  ∀ c d : Candidate α, c.analysis = d.analysis → constraint.holds c = constraint.holds d

/-- The criteria and the constraints look at nothing but the analysis. -/
structure Selector.Analytic (selector : Selector α) : Prop where
  criteria : ∀ criterion ∈ selector.criteria.items, criterion.Analytic
  constraints : ∀ constraint ∈ selector.constraints, constraint.Analytic

variable [Scalar α]

namespace CriteriaSet

variable {P : (Candidate α → α) → Prop}

theorem normalize_scorers {items : List (Criterion α)} (all : ∀ c ∈ items, P c.scorer) :
    ∀ c ∈ normalize items, P c.scorer := by
  intro weighted member
  obtain ⟨c, below, rfl⟩ := List.mem_map.mp member
  exact all c below

theorem add_scorers {set extended : CriteriaSet α} {criterion : Criterion α}
    (all : ∀ c ∈ set.items, P c.scorer) (new : P criterion.scorer)
    (added : set.add criterion = .ok extended) : ∀ c ∈ extended.items, P c.scorer := by
  unfold add at added
  split at added
  · cases added
    refine normalize_scorers fun c member => ?_
    obtain old | last := List.mem_append.mp member
    · exact all c (List.mem_of_mem_filter old)
    · exact List.mem_singleton.mp last ▸ new
  · contradiction

/-- Criteria are added with their scorers. -/
theorem addAll_scorers {items : List (Criterion α)} {set extended : CriteriaSet α}
    (all : ∀ c ∈ set.items, P c.scorer) (new : ∀ c ∈ items, P c.scorer)
    (added : addAll items set = .ok extended) : ∀ c ∈ extended.items, P c.scorer := by
  induction items generalizing set with
  | nil =>
    cases added
    exact all
  | cons criterion rest ih =>
    rw [List.forall_mem_cons] at new
    cases first : set.add criterion with
    | error e => simp [addAll, first, bind, Except.bind] at added
    | ok next =>
      simp only [addAll, first, bind, Except.bind] at added
      exact ih (add_scorers all new.1 first) new.2 added

end CriteriaSet

theorem Criterion.standard_analytic : ∀ c ∈ (Criterion.standard : List (Criterion α)), c.Analytic := by
  intro criterion member c d same
  simp only [Criterion.standard, List.mem_cons, List.not_mem_nil, or_false] at member
  rcases member with rfl | rfl | rfl | rfl <;> simp only [Criterion.new, Candidate.formula, same]

theorem Constraint.new_holds {name : String} {severity : Severity} {penalty : α}
    {holds : Candidate α → Bool} {constraint : Constraint α}
    (made : Constraint.new name severity penalty holds = .ok constraint) : constraint.holds = holds := by
  unfold Constraint.new at made
  split at made
  · cases made
    rfl
  · contradiction

theorem Constraint.standard_holds {complexityLimit depthLimit : Nat} {softPenalty : α}
    {constraints : List (Constraint α)}
    (made : Constraint.standard complexityLimit depthLimit softPenalty = .ok constraints) :
    constraints.map (·.holds) =
      [fun c => Formula.isFiniteValue c.value, fun c => decide (c.analysis.complexity ≤ complexityLimit),
        fun c => decide (c.analysis.depth ≤ depthLimit)] := by
  simp only [Constraint.standard, bind, Except.bind] at made
  split at made
  · contradiction
  next complexity first =>
    split at made
    · contradiction
    next depth second =>
      cases made
      simp only [List.map_cons, List.map_nil, new_holds first, new_holds second, Constraint.hard]

theorem Constraint.standard_analytic {complexityLimit depthLimit : Nat} {softPenalty : α}
    {constraints : List (Constraint α)}
    (made : Constraint.standard complexityLimit depthLimit softPenalty = .ok constraints) :
    ∀ constraint ∈ constraints, constraint.Analytic := by
  intro constraint member c d same
  have among := List.mem_map_of_mem (f := fun c : Constraint α => c.holds) member
  rw [standard_holds made] at among
  simp only [List.mem_cons, List.not_mem_nil, or_false] at among
  rcases among with holds | holds | holds <;> simp only [holds, Candidate.value, same]

namespace Selector

section Broken

variable {selector : Selector α} {c : Candidate α} {k hard : Constraint α}

omit [Scalar α] in
theorem exists_brokenHard (member : k ∈ selector.constraints) (isHard : k.isHard)
    (broken : ¬k.holds c) : ∃ hard, selector.brokenHard? c = some hard := by
  refine Option.isSome_iff_exists.mp (List.find?_isSome.mpr ⟨k, member, ?_⟩)
  simp [isHard, broken]

theorem evaluate_of_broken (broken : selector.brokenHard? c = some hard) :
    selector.evaluate c = ⟨c.id, [], [hard.name], 0, 0, .eliminate⟩ := by
  rw [evaluate, broken]

end Broken

/-- A standard selector has seen nothing yet. -/
theorem standard_made {settings : SelectionSettings α} {selector : Selector α}
    (made : standard settings = .ok selector) :
    ∃ criteria constraints, CriteriaSet.empty.addAll Criterion.standard = .ok criteria ∧
      Constraint.standard settings.complexityLimit settings.depthLimit settings.softPenalty =
        .ok constraints ∧ selector = ⟨settings, criteria, constraints, .standard, [], 1⟩ := by
  simp only [standard, bare, bind, Except.bind] at made
  split at made
  · contradiction
  next start ready =>
    split at ready
    · contradiction
    cases ready
    split at made
    · contradiction
    next criteria added =>
      split at made
      · contradiction
      next constraints built =>
        cases made
        exact ⟨criteria, constraints, added, built, rfl⟩

theorem standard_analytic {settings : SelectionSettings α} {selector : Selector α}
    (made : standard settings = .ok selector) : selector.Analytic := by
  obtain ⟨criteria, constraints, added, built, rfl⟩ := standard_made made
  constructor
  · let P (scorer : Candidate α → α) : Prop := ∀ c d, c.analysis = d.analysis → scorer c = scorer d
    have standard : ∀ c ∈ Criterion.standard, P c.scorer := Criterion.standard_analytic
    exact CriteriaSet.addAll_scorers (by simp [CriteriaSet.empty]) standard added
  · exact Constraint.standard_analytic built

/-- The criteria and the constraints do not tell two candidates apart. -/
structure Confuses (selector : Selector α) (c d : Candidate α) : Prop where
  criteria : ∀ criterion ∈ selector.criteria.items, criterion.scorer c = criterion.scorer d
  constraints : ∀ constraint ∈ selector.constraints, constraint.holds c = constraint.holds d

variable {selector : Selector α} {c d : Candidate α}

omit [Scalar α] in
theorem Analytic.confuses (analytic : selector.Analytic) (same : c.analysis = d.analysis) :
    selector.Confuses c d where
  criteria criterion member := analytic.criteria criterion member c d same
  constraints constraint member := analytic.constraints constraint member c d same

omit [Scalar α] in
theorem Confuses.brokenHard? (confuses : selector.Confuses c d) :
    selector.brokenHard? c = selector.brokenHard? d := by
  rw [Selector.brokenHard?, Selector.brokenHard?, ← List.head?_filter, ← List.head?_filter]
  congr 1
  refine List.filter_congr fun constraint member => ?_
  rw [confuses.constraints constraint member]

omit [Scalar α] in
theorem Confuses.brokenSoft (confuses : selector.Confuses c d) :
    selector.brokenSoft c = selector.brokenSoft d := by
  refine List.filter_congr fun constraint member => ?_
  rw [confuses.constraints constraint member]

theorem Confuses.parts (confuses : selector.Confuses c d) :
    selector.criteria.parts c = selector.criteria.parts d := by
  refine List.map_congr_left fun criterion member => ?_
  have score : criterion.score c = criterion.score d := by
    rw [Criterion.score, Criterion.score, confuses.criteria criterion member]
  rw [Criterion.part, Criterion.part, score]

theorem Confuses.evaluate (confuses : selector.Confuses c d) :
    selector.evaluate c = { selector.evaluate d with candidateId := c.id } := by
  unfold Selector.evaluate
  rw [confuses.brokenHard?, confuses.brokenSoft, confuses.parts]
  split <;> rfl

/-- Candidates with the same analysis are judged alike. -/
theorem evaluate_congr (analytic : selector.Analytic) (same : c.analysis = d.analysis) :
    selector.evaluate c = { selector.evaluate d with candidateId := c.id } :=
  (analytic.confuses same).evaluate

end Selector
end FormulaLab
