import FormulaLab.Proofs.Population.Accounting
import FormulaLab.Proofs.Population.Stability

/-! Lineage: the ids of candidates. An id belongs to one candidate only, over all candidates made and all
evolutions run on a selector, since the counter never goes back. -/

namespace FormulaLab

open scoped List

namespace Selector

variable {α : Type} [Scalar α]

variable {mutator : Mutator α} {count : Nat} {population : List (Candidate α)}
  {selector after last : Selector α} {n : Nat} {round : Round α} {rounds : List (Round α)}
  {litters : List (List (Candidate α))}

omit [Scalar α] in
/-- Offspring take the next ids in order. -/
theorem offspring_ids (mutator : Mutator α) (parents : List (Candidate α)) (selector : Selector α)
    (n : Nat) :
    ((offspring mutator parents selector n).1.1.map (·.id)) =
      List.range' selector.nextId parents.length := by
  induction parents generalizing selector n with
  | nil => rfl
  | cons parent rest ih =>
    cases drawn : mutator parent n with
    | mk child m =>
      have others := ih { selector with nextId := selector.nextId + 1 } m
      simp only [offspring, bind, StateT.bind, drawn]
      exact congrArg (selector.nextId :: ·) others

/-- The offspring of a round take the next ids of the selector that the round began with. -/
theorem litter_ids {children : List (Candidate α)} {breeding : Selector α} {m : Nat}
    (selected : selector.select population = (round, after))
    (made : offspring mutator round.mutated after n = ((children, breeding), m)) :
    breeding.nextId = selector.nextId + round.mutated.length ∧
      children.map (·.id) = List.range' selector.nextId round.mutated.length := by
  have ids := offspring_ids mutator round.mutated after n
  have spec := (offspring_spec mutator round.mutated after n).2
  rw [made] at ids spec
  cases selected
  exact ⟨congrArg nextId spec, ids⟩

/-- The survivors of a round have ids of its population, none of them twice. -/
theorem survivors_ids (selected : selector.select population = (round, after))
    (distinct : (population.map (·.id)).Nodup) :
    (round.survivors.map (·.id)).Nodup ∧
      ∀ c ∈ round.survivors, ∃ d ∈ population, d.id = c.id := by
  have complete := select_complete selector population
  rw [selected] at complete
  have ids : (round.survivors ++ round.mutated ++ round.eliminated).map (·.id) ~
      population.map (·.id) := by
    refine (complete.map _).trans (.of_eq ?_)
    rw [List.map_map]
    exact List.map_congr_left fun c _ => (settled_turns _ c).id
  constructor
  · have whole := ids.nodup_iff.mpr distinct
    rw [List.append_assoc, List.map_append] at whole
    exact (List.nodup_append.mp whole).1
  · intro c member
    have among : c.id ∈ population.map (·.id) := by
      rw [← ids.mem_iff, List.append_assoc, List.map_append]
      exact List.mem_append_left _ (List.mem_map_of_mem member)
    exact List.mem_map.mp among

/-- The population of the next round has distinct ids that have been given out. -/
theorem successors_ids {children : List (Candidate α)} {breeding : Selector α} {m : Nat}
    (selected : selector.select population = (round, after))
    (made : offspring mutator round.mutated after n = ((children, breeding), m))
    (distinct : (population.map (·.id)).Nodup) (known : ∀ c ∈ population, c.id < selector.nextId) :
    ((round.survivors ++ children).map (·.id)).Nodup ∧
      ∀ c ∈ round.survivors ++ children, c.id < breeding.nextId := by
  obtain ⟨apart, descended⟩ := survivors_ids selected distinct
  obtain ⟨reached, ids⟩ := litter_ids selected made
  have old : ∀ c ∈ round.survivors, c.id < selector.nextId := by
    intro c member
    obtain ⟨d, parent, same⟩ := descended c member
    exact same ▸ known d parent
  have new : ∀ c ∈ children, selector.nextId ≤ c.id ∧ c.id < breeding.nextId := by
    intro c member
    have among : c.id ∈ children.map (·.id) := List.mem_map_of_mem member
    rw [ids, List.mem_range'_1] at among
    rw [reached]
    exact among
  constructor
  · rw [List.map_append, List.nodup_append]
    refine ⟨apart, ids ▸ List.nodup_range', ?_⟩
    intro i survivor j child
    obtain ⟨c, member, rfl⟩ := List.mem_map.mp survivor
    obtain ⟨d, born, rfl⟩ := List.mem_map.mp child
    exact Nat.ne_of_lt (Nat.lt_of_lt_of_le (old c member) (new d born).1)
  · intro c member
    rcases List.mem_append.mp member with survivor | child
    · exact Nat.lt_of_lt_of_le (old c survivor) (reached ▸ Nat.le_add_right _ _)
    · exact (new c child).2

/-- A later state of a selector. Only its history and the next id differ, and ids do not go back. -/
structure Advances (before after : Selector α) : Prop where
  same : before.SameSettings after
  onwards : before.nextId ≤ after.nextId

omit [Scalar α] in
theorem Advances.refl (selector : Selector α) : selector.Advances selector := ⟨rfl, Nat.le_refl _⟩

omit [Scalar α] in
theorem Advances.trans (first : selector.Advances after) (second : after.Advances last) :
    selector.Advances last :=
  ⟨first.same.trans second.same, Nat.le_trans first.onwards second.onwards⟩

omit [Scalar α] in
theorem candidate_advances (selector : Selector α) (analysis : Analysis α) (fitness : α) :
    selector.Advances (selector.candidate analysis fitness).2 := ⟨rfl, Nat.le_succ _⟩

theorem Unfolds.advances (run : Unfolds mutator count population selector n rounds litters last) :
    selector.Advances last := by
  induction run with
  | finished => exact .refl _
  | stopped selected =>
    cases selected
    exact ⟨rfl, Nat.le_refl _⟩
  | @next _ population _ selector after _ _ n _ round _ _ selected _ made _ ih =>
    have onwards := select_sameSettings selector population
    have bred := offspring_sameSettings mutator round.mutated after n
    have reached := (litter_ids selected made).1
    rw [selected] at onwards
    rw [made] at bred
    exact Advances.trans ⟨onwards.trans bred, reached ▸ Nat.le_add_right _ _⟩ ih

theorem evolve_advances (mutator : Mutator α) (generations : Nat) (population : List (Candidate α))
    (selector : Selector α) (n : Nat) :
    selector.Advances (evolve mutator generations population selector n).1.2 := by
  obtain ⟨litters, run⟩ := exists_unfolds mutator generations population selector n
  exact run.advances

/-- All offspring of an evolution together take the ids up to the next one that is left. -/
theorem Unfolds.ids (run : Unfolds mutator count population selector n rounds litters last) :
    litters.flatten.map (·.id) = List.range' selector.nextId (last.nextId - selector.nextId) := by
  induction run with
  | finished => simp
  | stopped selected =>
    cases selected
    simp
  | next selected _ made later ih =>
    obtain ⟨reached, ids⟩ := litter_ids selected made
    have onwards := later.advances.onwards
    rw [List.flatten_cons, List.map_append, ids, ih, reached, List.range'_append_1]
    congr 1
    omega

/-- In every round of an evolution ids are distinct and have been given out. -/
theorem Unfolds.distinct (run : Unfolds mutator count population selector n rounds litters last)
    (distinct : (population.map (·.id)).Nodup) (known : ∀ c ∈ population, c.id < selector.nextId) :
    ∀ round ∈ rounds, (round.candidates.map (·.id)).Nodup ∧
      ∀ c ∈ round.candidates, c.id < last.nextId := by
  induction run with
  | finished => simp
  | stopped selected =>
    intro round member
    obtain rfl := List.mem_singleton.mp member
    cases selected
    exact ⟨distinct, known⟩
  | next selected survived made later ih =>
    obtain ⟨apart, below⟩ := successors_ids selected made distinct known
    have onwards := (Unfolds.next selected survived made later).advances.onwards
    rw [List.forall_mem_cons]
    refine ⟨?_, ih apart below⟩
    cases selected
    exact ⟨distinct, fun c member => Nat.lt_of_lt_of_le (known c member) onwards⟩

/-- Use of one selector from a given state on: the ids handed out so far, the rounds of its evolutions
and its present state. Evolutions start from candidates with distinct ids handed out before. -/
inductive Session (start : Selector α) : List Nat → List (Round α) → Selector α → Prop where
  | start : Session start [] [] start
  | candidate {ids : List Nat} {rounds : List (Round α)} {selector : Selector α}
      (analysis : Analysis α) (fitness : α) : Session start ids rounds selector →
      Session start (ids ++ [(selector.candidate analysis fitness).1.id]) rounds
        (selector.candidate analysis fitness).2
  | select {ids : List Nat} {rounds : List (Round α)} {selector : Selector α}
      (candidates : List (Candidate α)) : Session start ids rounds selector →
      Session start ids rounds (selector.select candidates).2
  | evolve {ids : List Nat} {rounds : List (Round α)} {selector last : Selector α}
      {population : List (Candidate α)} {mutator : Mutator α} {generations n m : Nat}
      {evolution : Evolution α} {litters : List (List (Candidate α))} :
      Session start ids rounds selector →
      (population.map (·.id)).Nodup → (∀ c ∈ population, c.id ∈ ids) →
      evolve mutator generations population selector n = ((evolution, last), m) →
      Unfolds mutator generations population selector n evolution.rounds litters last →
      Session start (ids ++ litters.flatten.map (·.id)) (rounds ++ evolution.rounds) last
  | clearHistory {ids : List Nat} {rounds : List (Round α)} {selector : Selector α} :
      Session start ids rounds selector → Session start ids rounds selector.clearHistory

/-- Ids are never reused. Over any session they are handed out in ascending order and stay below the next
id, also those of offspring that no round has seen; and in every round of an evolution the candidates
have distinct ids. -/
theorem ids_never_reused {start : Selector α} {ids : List Nat}
    (session : start.Session ids rounds selector) :
    ids.Pairwise (· < ·) ∧ (∀ i ∈ ids, i < selector.nextId) ∧
      ∀ round ∈ rounds, (round.candidates.map (·.id)).Nodup ∧
        ∀ c ∈ round.candidates, c.id < selector.nextId := by
  induction session with
  | start => simp
  | candidate analysis fitness _ ih =>
    obtain ⟨ascending, below, apart⟩ := ih
    refine ⟨?_, ?_, ?_⟩
    · rw [List.pairwise_append]
      refine ⟨ascending, List.pairwise_singleton _ _, ?_⟩
      intro i old j new
      rw [List.mem_singleton.mp new]
      exact below i old
    · intro i member
      rcases List.mem_append.mp member with old | new
      · exact Nat.lt_succ_of_lt (below i old)
      · rw [List.mem_singleton.mp new]
        exact Nat.lt_succ_self _
    · intro round member
      obtain ⟨distinct, known⟩ := apart round member
      exact ⟨distinct, fun c candidate => Nat.lt_succ_of_lt (known c candidate)⟩
  | select candidates _ ih => exact ih
  | clearHistory _ ih => exact ih
  | evolve _ distinct created _ run ih =>
    obtain ⟨ascending, below, apart⟩ := ih
    have onwards := run.advances.onwards
    have handed := run.ids
    refine ⟨?_, ?_, ?_⟩
    · rw [handed, List.pairwise_append]
      refine ⟨ascending, List.pairwise_lt_range', ?_⟩
      intro i old j new
      rw [List.mem_range'_1] at new
      exact Nat.lt_of_lt_of_le (below i old) new.1
    · intro i member
      rw [handed] at member
      rcases List.mem_append.mp member with old | new
      · exact Nat.lt_of_lt_of_le (below i old) onwards
      · have inside := List.mem_range'_1.mp new
        omega
    · intro round member
      rcases List.mem_append.mp member with old | new
      · obtain ⟨distinct, known⟩ := apart round old
        exact ⟨distinct, fun c candidate => Nat.lt_of_lt_of_le (known c candidate) onwards⟩
      · exact run.distinct distinct (fun c member => below _ (created c member)) round new

/-- Two candidates, an evolution of two rounds with one offspring each, and one more candidate. -/
theorem ids_never_reused_energetic :
    ∃ rounds selector, energetic.Session [3, 4, 5, 6, 7] rounds selector ∧ rounds.length = 2 ∧
      (∀ i ∈ [3, 4, 5, 6, 7], i < selector.nextId) ∧
      ∀ round ∈ rounds, (round.candidates.map (·.id)).Nodup ∧
        ∀ c ∈ round.candidates, c.id < selector.nextId := by
  let strong := Formula.analyze 0.001 (.node "1" ⟨.constant, some (0.7 : Float), none, none⟩ [])
  let weak := Formula.analyze 0.001 (.node "2" ⟨.constant, some (0.4 : Float), none, none⟩ [])
  let first := energetic.candidate strong 0
  let second := first.2.candidate weak 0
  let mutator : Mutator Float := fun parent => pure parent
  let evolved := evolve mutator 2 [first.1, second.1] second.2 3
  have created : energetic.Session [3, 4] [] second.2 := .candidate weak 0 (.candidate strong 0 .start)
  obtain ⟨litters, run⟩ := exists_unfolds mutator 2 [first.1, second.1] second.2 3
  have session := ((created.evolve (by decide) (by decide) rfl run).clearHistory).candidate strong 0
  have last : evolved.1.2.nextId = 7 := by decide +kernel
  have two : evolved.1.1.rounds.length = 2 := by decide +kernel
  have handed : litters.flatten.map (·.id) = List.range' 5 (evolved.1.2.nextId - 5) := run.ids
  change energetic.Session ([3, 4] ++ litters.flatten.map (·.id) ++ [evolved.1.2.nextId]) _ _ at session
  rw [handed, last] at session
  obtain ⟨_, below, apart⟩ := ids_never_reused session
  exact ⟨_, _, session, two, below, apart⟩

end Selector
end FormulaLab
