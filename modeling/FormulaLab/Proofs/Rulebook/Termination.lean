import FormulaLab.Proofs.Rulebook.Outcome
import FormulaLab.Proofs.Rulebook.Trace

/-! Reduction by the standard rules ends. A pass that does not square the golden ratio leaves a normal
formula, and a pass that does uses up powers, of which no rule makes new ones. -/

namespace FormulaLab.Rulebook

variable {α : Type} [Scalar α] {precision : α}

/-- What a pass by the standard rules leaves: every square of the golden ratio has used up a power,
and without such a square nothing is left to do. -/
structure Spent (precision : α) (f : Formula α) (pass : Pass α) : Prop where
  powers : pass.output.powerCount + pass.fired.count "golden-square" ≤ f.powerCount
  normal : "golden-square" ∉ pass.fired → (standard precision).Normal pass.output

theorem spent_children {children : List (Formula α)} {passes : List (Pass α)}
    (spent : List.Forall₂ (Spent precision) children passes) :
    ((passes.map (·.output)).map Formula.powerCount).sum
        + (passes.flatMap (·.fired)).count "golden-square" ≤ (children.map Formula.powerCount).sum ∧
      ("golden-square" ∉ passes.flatMap (·.fired) →
        ∀ output ∈ passes.map (·.output), (standard precision).Normal output) := by
  induction spent with
  | nil => simp
  | @cons child pass children passes first _ ih =>
    have powers := first.powers
    constructor
    · simp only [List.map_cons, List.sum_cons, List.flatMap_cons, List.count_append]
      omega
    · intro absent output member
      rw [List.flatMap_cons, List.mem_append, not_or] at absent
      obtain rfl | later := List.mem_cons.mp member
      · exact first.normal absent.1
      · exact ih.2 absent.2 output later

theorem applyOnce_spent (f : Formula α) (n : Nat) :
    Spent precision f ((standard precision).applyOnce f n).1 := by
  refine pass_induction ?_ f n
  intro id current head children passes pass related tried
  obtain ⟨powers, normal⟩ := spent_children related
  have arity : (passes.map (·.output)).length = children.length := by
    rw [List.length_map, related.length_eq]
  have before := Formula.powerCount_node id head children
  cases tried with
  | kept unmatched =>
    refine ⟨?_, fun absent => normal_node.mpr ⟨unmatched, normal absent⟩⟩
    have after := Formula.powerCount_node current head (passes.map (·.output))
    rw [Formula.isPower_rebuilt id current head arity] at after
    dsimp only
    omega
  | replaced rule m matched =>
    have outcome := standard_match matched m
    generalize rule.name = name, (rule.transform _ m).1 = output at outcome ⊢
    cases outcome with
    | constant leaf v other =>
      refine ⟨?_, fun _ => normal_leaf leaf _⟩
      simp only [Formula.powerCount_constant, List.count_append, List.count_singleton, beq_iff_eq,
        other, if_false]
      omega
    | operand other member =>
      constructor
      · have single := List.le_sum_of_mem (List.mem_map_of_mem (f := Formula.powerCount) member)
        simp only [Formula.children] at single
        simp only [List.count_append, List.count_singleton, beq_iff_eq, other, if_false]
        omega
      · intro absent
        exact normal (fun below => absent (List.mem_append_left _ below)) output member
    | goldenSum sum left right power =>
      constructor
      · rw [Formula.isPower_rebuilt id current head arity] at power
        rw [if_pos power] at before
        simp only [Formula.powerCount_goldenSum, List.count_append, List.count_singleton_self]
        omega
      · intro absent
        exact absurd (List.mem_append_right _ List.mem_cons_self) absent

/-- A bound above the number of powers is never reached without convergence. -/
theorem iterate_converges (precision : α) {s : Formula α × Nat} {bound : Nat}
    (enough : s.1.powerCount + 1 ≤ bound) (done : Nat) :
    let r := ((standard precision).iterate bound done s.1 s.2).1
    r.2.2 = true ∧ r.2.1.length ≤ s.1.powerCount + 1 := by
  induction bound generalizing done s with
  | zero => exact absurd enough (Nat.not_succ_le_zero _)
  | succ bound ih =>
    by_cases quiet : ((standard precision).passAfter s 0).fired = []
    · rw [iterate_quiet bound done quiet]
      exact ⟨rfl, Nat.zero_le _⟩
    · rw [iterate_loud bound done quiet]
      have spent : Spent precision s.1 ((standard precision).passAfter s 0) := applyOnce_spent s.1 s.2
      -- A square uses up a power for the later passes; without one the next pass is quiet.
      by_cases square : "golden-square" ∈ ((standard precision).passAfter s 0).fired
      · have used : ((standard precision).advance s).1.powerCount + 1 ≤ s.1.powerCount :=
          (Nat.add_le_add_left (List.count_pos_iff.mpr square) _).trans spent.powers
        obtain ⟨converged, few⟩ := ih (used.trans (Nat.le_of_succ_le_succ enough)) (done + 1)
        exact ⟨converged, (Nat.succ_le_succ few).trans (Nat.succ_le_succ used)⟩
      · rw [iterate_normal (spent.normal square)]
        exact ⟨rfl, Nat.succ_le_succ (Nat.zero_le _)⟩

/-- From every formula, at every precision, at most one pass more than there are powers fires; so a
reduction with a bound above the number of powers converges within that many steps. -/
theorem standard_reduction_terminates (precision : α) (f : Formula α) (n : Nat) :
    (∃ k ≤ 1 + f.powerCount,
        (∀ i < k, ((standard precision).passAfter (f, n) i).fired ≠ []) ∧
        ((standard precision).passAfter (f, n) k).fired = []) ∧
      ∀ (accuracy : α) (bound : Nat), 1 + f.powerCount ≤ bound →
        let r := ((standard precision).reduce accuracy bound f n).1
        r.converged = true ∧ r.steps.length ≤ 1 + f.powerCount := by
  rw [Nat.add_comm]
  constructor
  · obtain ⟨converged, few⟩ := iterate_converges precision (s := (f, n)) (Nat.le_refl _) 0
    have trace := iterate_faithful (standard precision) (f.powerCount + 1) 0 (f, n)
    refine ⟨_, few, fun i before => ?_, ?_⟩
    · have record := trace.recorded i before
      exact List.length_pos_iff.mp (record.counted ▸ record.loud)
    · exact quiet_iff_normal.mpr (trace.reached ▸ trace.settled.mp converged)
  · intro accuracy bound enough
    exact iterate_converges precision (s := (f, n)) enough 0

end FormulaLab.Rulebook
