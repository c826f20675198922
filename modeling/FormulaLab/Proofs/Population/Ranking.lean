import FormulaLab.Population.Selector
import FormulaLab.Proofs.Scalar.Order

/-! Ranking by fitness: the fittest candidate of a list, and what the population limit leaves of one. -/

namespace FormulaLab

open Scalar (TotalOrder totalLe totalLt)

variable {α : Type} [Scalar α]

namespace Fitness

theorem fittest?_of_mem {xs : List (Candidate α)} {c : Candidate α} (member : c ∈ xs) :
    ∃ best, fittest? xs = some best := by
  cases xs with
  | nil => contradiction
  | cons first rest => exact ⟨_, rfl⟩

theorem fittest?_eq_none_iff {xs : List (Candidate α)} : fittest? xs = none ↔ xs = [] := by
  cases xs with
  | nil => simp [fittest?]
  | cons first rest => simp [fittest?]

/-- The last of the candidates with the greatest fitness: none is fitter, and all that come later are
less fit. -/
def LastFittest (xs : List (Candidate α)) (best : Candidate α) : Prop :=
  ∃ before after, xs = before ++ best :: after ∧
    (∀ c ∈ before, totalLe c.fitness best.fitness = true) ∧
    ∀ c ∈ after, totalLt c.fitness best.fitness = true

variable [TotalOrder α] {xs : List (Candidate α)} {first next best : Candidate α}

theorem LastFittest.greatest (last : LastFittest xs best) :
    best ∈ xs ∧ ∀ c ∈ xs, totalLe c.fitness best.fitness = true := by
  obtain ⟨before, after, rfl, notFitter, lessFit⟩ := last
  constructor
  · simp
  · intro c member
    rcases List.mem_append.mp member with earlier | later
    · exact notFitter c earlier
    · rcases List.mem_cons.mp later with rfl | later
      · exact Scalar.totalLe_refl _
      · exact Scalar.totalLe_of_totalLt (lessFit c later)

/-- A less fit candidate behind the first one changes nothing. -/
theorem LastFittest.insert (last : LastFittest (first :: xs) best)
    (less : totalLt next.fitness first.fitness = true) :
    LastFittest (first :: next :: xs) best := by
  have below := TotalOrder.trans _ _ _ (Scalar.totalLe_of_totalLt less)
    (last.greatest.2 first List.mem_cons_self)
  obtain ⟨before, after, whole, notFitter, lessFit⟩ := last
  cases before with
  | nil =>
    obtain ⟨rfl, rfl⟩ := List.cons_eq_cons.mp whole
    exact ⟨[], next :: xs, rfl, notFitter, List.forall_mem_cons.mpr ⟨less, lessFit⟩⟩
  | cons head before =>
    obtain ⟨rfl, rfl⟩ := List.cons_eq_cons.mp whole
    obtain ⟨firstBelow, notFitter⟩ := List.forall_mem_cons.mp notFitter
    refine ⟨first :: next :: before, after, rfl, ?_, lessFit⟩
    simp only [List.forall_mem_cons]
    exact ⟨firstBelow, below, notFitter⟩

/-- Nor does a candidate in front of one that is at least as fit. -/
theorem LastFittest.cons (last : LastFittest (next :: xs) best)
    (notLess : totalLe first.fitness next.fitness = true) :
    LastFittest (first :: next :: xs) best := by
  have below := TotalOrder.trans _ _ _ notLess (last.greatest.2 next List.mem_cons_self)
  obtain ⟨before, after, whole, notFitter, lessFit⟩ := last
  rw [whole]
  exact ⟨first :: before, after, rfl, List.forall_mem_cons.mpr ⟨below, notFitter⟩, lessFit⟩

/-- A fold that keeps the fitter of two candidates ends with the last fittest one. -/
theorem fittest_fold (first : Candidate α) (rest : List (Candidate α)) :
    LastFittest (first :: rest)
      (rest.foldl (fun best c => if totalLt c.fitness best.fitness then best else c) first) := by
  induction rest generalizing first with
  | nil => exact ⟨[], [], rfl, by simp, by simp⟩
  | cons c rest ih =>
    rw [List.foldl_cons]
    split
    next less => exact (ih first).insert less
    next notLess => exact (ih c).cons (Scalar.totalLe_of_not_totalLt notLess)

theorem fittest?_last (found : fittest? xs = some best) : LastFittest xs best := by
  cases xs with
  | nil => contradiction
  | cons first rest =>
    cases found
    exact fittest_fold first rest

theorem fittest?_greatest (found : fittest? xs = some best) :
    best ∈ xs ∧ ∀ c ∈ xs, totalLe c.fitness best.fitness = true :=
  (fittest?_last found).greatest

end Fitness

namespace Selector

variable {limit : Nat} {xs : List (Candidate α)} {c : Candidate α}

theorem cut_length : (cut limit xs).1.length = min limit xs.length := by
  unfold cut
  split
  next exceeds => simp only [List.splitAt_eq, List.length_take, List.length_mergeSort]
  next within => exact (Nat.min_eq_right (Nat.not_lt.mp within)).symm

/-- The limit loses and adds nothing. -/
theorem cut_perm : ((cut limit xs).1 ++ (cut limit xs).2).Perm xs := by
  unfold cut
  split
  next exceeds =>
    simp only [List.splitAt_eq, List.take_append_drop]
    exact List.mergeSort_perm xs _
  next within => simp

theorem mem_of_mem_cut (member : c ∈ (cut limit xs).1) : c ∈ xs :=
  cut_perm.mem_iff.mp (List.mem_append_left _ member)

/-- A candidate stays unless the limit is reached. -/
theorem mem_cut_or (member : c ∈ xs) :
    c ∈ (cut limit xs).1 ∨ c ∈ (cut limit xs).2 ∧ (cut limit xs).1.length = limit := by
  obtain kept | lost := List.mem_append.mp (cut_perm.mem_iff.mpr member)
  · exact .inl kept
  · refine .inr ⟨lost, ?_⟩
    unfold cut at lost ⊢
    split at lost
    next exceeds =>
      rw [if_pos exceeds]
      simp only [List.splitAt_eq, List.length_take, List.length_mergeSort]
      omega
    next within => exact absurd lost List.not_mem_nil

variable [TotalOrder α]

/-- A limit that leaves anything leaves a candidate at least as fit as any. -/
theorem exists_fit_mem_cut (positive : 0 < limit) (member : c ∈ xs) :
    ∃ d ∈ (cut limit xs).1, totalLe c.fitness d.fitness = true := by
  unfold cut
  split
  next exceeds =>
    have sorted : (xs.mergeSort fun a b => totalLe b.fitness a.fitness).Pairwise
        fun a b => totalLe b.fitness a.fitness = true :=
      List.pairwise_mergeSort
        (fun a b c first second => TotalOrder.trans c.fitness b.fitness a.fitness second first)
        (fun a b => TotalOrder.total b.fitness a.fitness) xs
    have member := (List.mergeSort_perm xs fun a b => totalLe b.fitness a.fitness).mem_iff.mpr member
    obtain ⟨limit, rfl⟩ := Nat.exists_eq_succ_of_ne_zero (Nat.ne_of_gt positive)
    generalize xs.mergeSort (fun a b => totalLe b.fitness a.fitness) = ranked at sorted member ⊢
    cases ranked with
    | nil => contradiction
    | cons first rest =>
      refine ⟨first, by simp, ?_⟩
      obtain rfl | later := List.mem_cons.mp member
      · exact Scalar.totalLe_refl _
      · exact List.rel_of_pairwise_cons sorted later
  next within => exact ⟨c, member, Scalar.totalLe_refl _⟩

end Selector
end FormulaLab
