import FormulaLab.Proofs.Rulebook.Pass

/-! A reduction is a faithful record of repeated passes, for any rulebook and any bound. It has
converged exactly when its output is normal, whether that shows within the bound or in the pass after
it. -/

namespace FormulaLab

/-- What the record of a pass says: its number, how many rules fired, the last of them, and how far
the closed value moved. -/
structure ReductionStep.Records {α : Type} [Scalar α] (step : ReductionStep α) (number : Nat)
    (before : Formula α) (pass : Pass α) : Prop where
  numbered : step.step = number
  loud : 1 ≤ step.applications
  counted : step.applications = pass.fired.length
  last : pass.fired.getLast? = some step.rule
  moved : step.delta = Scalar.abs (pass.output.closedValue.getD 0 - before.closedValue.getD 0)

namespace Rulebook

variable {α : Type} (book : Rulebook α)

/-- A formula and the id counter, after one more pass. -/
def advance (s : Formula α × Nat) : Formula α × Nat :=
  ((book.applyOnce s.1 s.2).1.output, (book.applyOnce s.1 s.2).2)

def passAfter (s : Formula α × Nat) (k : Nat) : Pass α :=
  (book.applyOnce (book.advance^[k] s).1 (book.advance^[k] s).2).1

variable [Scalar α]

/-- The end and the records of at most `bound` passes that come after `done` recorded ones, and
whether the end is normal. -/
structure Faithful (bound done : Nat) (s : Formula α × Nat) (output : Formula α)
    (steps : List (ReductionStep α)) (converged : Bool) : Prop where
  bounded : steps.length ≤ bound
  reached : output = (book.advance^[steps.length] s).1
  recorded : ∀ i (h : i < steps.length),
    steps[i].Records (done + i + 1) (book.advance^[i] s).1 (book.passAfter s i)
  settled : converged = true ↔ book.Normal output

variable {book}

theorem recordStep_records {number : Nat} {before : Formula α} {pass : Pass α}
    (loud : pass.fired ≠ []) : (recordStep number before pass).Records number before pass where
  numbered := rfl
  loud := List.length_pos_iff.mpr loud
  counted := rfl
  last := by
    simp only [recordStep, List.getLastD_eq_getLast?, List.getLast?_eq_some_getLast loud,
      Option.getD_some]
  moved := rfl

theorem iterate_zero (done : Nat) (s : Formula α × Nat) :
    (book.iterate 0 done s.1 s.2).1 = (s.1, [], (book.passAfter s 0).fired.isEmpty) := rfl

theorem iterate_quiet {s : Formula α × Nat} (bound done : Nat)
    (quiet : (book.passAfter s 0).fired = []) :
    (book.iterate (bound + 1) done s.1 s.2).1 = (s.1, [], true) := by
  simp only [passAfter, Function.iterate_zero_apply] at quiet
  cases run : book.applyOnce s.1 s.2 with
  | mk pass m =>
    rw [run] at quiet
    simp only [iterate, bind, StateT.bind, run]
    rw [if_pos (List.isEmpty_iff.mpr quiet)]
    rfl

theorem iterate_loud {s : Formula α × Nat} (bound done : Nat)
    (loud : (book.passAfter s 0).fired ≠ []) :
    (book.iterate (bound + 1) done s.1 s.2).1 =
      let rest := (book.iterate bound (done + 1) (book.advance s).1 (book.advance s).2).1
      (rest.1, recordStep (done + 1) s.1 (book.passAfter s 0) :: rest.2.1, rest.2.2) := by
  simp only [passAfter, advance, Function.iterate_zero_apply] at loud ⊢
  cases run : book.applyOnce s.1 s.2 with
  | mk pass m =>
    rw [run] at loud
    simp only [iterate, bind, StateT.bind, run]
    rw [if_neg (fun empty => loud (List.isEmpty_iff.mp empty))]
    rfl

theorem iterate_faithful (book : Rulebook α) (bound done : Nat) (s : Formula α × Nat) :
    let r := (book.iterate bound done s.1 s.2).1
    book.Faithful bound done s r.1 r.2.1 r.2.2 := by
  induction bound generalizing done s with
  | zero =>
    rw [iterate_zero]
    refine ⟨Nat.le_refl 0, rfl, fun i h => absurd h (Nat.not_lt_zero i), ?_⟩
    rw [List.isEmpty_iff]
    exact quiet_iff_normal
  | succ bound ih =>
    by_cases quiet : (book.passAfter s 0).fired = []
    · rw [iterate_quiet bound done quiet]
      refine ⟨Nat.zero_le _, rfl, fun i h => absurd h (Nat.not_lt_zero i), ?_⟩
      exact ⟨fun _ => (quiet_iff_normal (n := s.2)).mp quiet, fun _ => rfl⟩
    · rw [iterate_loud bound done quiet]
      have rest := ih (done + 1) (book.advance s)
      refine ⟨Nat.succ_le_succ rest.bounded, rest.reached, fun i h => ?_, rest.settled⟩
      cases i with
      | zero => exact recordStep_records quiet
      | succ i =>
        have later := rest.recorded i (Nat.lt_of_succ_lt_succ h)
        rw [Nat.add_right_comm done 1 i] at later
        exact later

theorem iterate_normal {s : Formula α × Nat} (normal : book.Normal s.1) (bound done : Nat) :
    (book.iterate bound done s.1 s.2).1 = (s.1, [], true) := by
  have quiet : (book.passAfter s 0).fired = [] := quiet_iff_normal.mpr normal
  cases bound with
  | zero => rw [iterate_zero, quiet, List.isEmpty_nil]
  | succ bound => exact iterate_quiet bound done quiet

theorem reduce_eq (precision : α) (bound : Nat) (s : Formula α × Nat) :
    (book.reduce precision bound s.1 s.2).1 =
      let r := (book.iterate bound 0 s.1 s.2).1
      ⟨s.1, r.1, r.2.1, r.2.2, r.1.analyze precision⟩ := rfl

/-- A reduction records its passes faithfully for every rulebook, formula and bound, and a converged
one has nothing left to do: reduced again under any bound, its output stays as it is, ids included. -/
theorem reduce_faithful (book : Rulebook α) (precision : α) (bound : Nat) (f : Formula α) (n : Nat) :
    let r := (book.reduce precision bound f n).1
    r.input = f ∧ book.Faithful bound 0 (f, n) r.output r.steps r.converged ∧
      (r.converged = true → ∀ (precision : α) (bound m : Nat),
        let again := (book.reduce precision bound r.output m).1
        again.output = r.output ∧ again.steps = [] ∧ again.converged = true) := by
  have faithful := iterate_faithful book bound 0 (f, n)
  rw [reduce_eq precision bound (f, n)]
  refine ⟨rfl, faithful, ?_⟩
  intro converged precision bound m
  have normal := faithful.settled.mp converged
  rw [reduce_eq precision bound (_, m), iterate_normal normal]
  exact ⟨rfl, rfl, rfl⟩

end Rulebook
end FormulaLab
