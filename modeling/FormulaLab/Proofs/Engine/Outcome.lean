import FormulaLab.Engine.Run
import FormulaLab.Proofs.Expansion.Depth
import FormulaLab.Proofs.Rulebook.Pass

/-! What a run comes to. It fails on the empty vector and beyond the greatest depth, before anything
has changed, and nothing can fail after that: the dimensions that it asks for are always valid, and a
chain of at least one formula always exists. -/

namespace FormulaLab

namespace Dimension

variable {α : Type} [Scalar α] {vector : List α} {target : Nat}

theorem elevate_ok (nonempty : vector ≠ []) (upwards : vector.length ≤ target) :
    elevate vector target = .ok (raise vector target) := by
  rw [elevate, if_neg (Nat.not_lt.mpr upwards), if_neg nonempty]

theorem elevate_isOk_iff (nonempty : vector ≠ []) :
    (elevate vector target).isOk = true ↔ vector.length ≤ target := by
  by_cases upwards : vector.length ≤ target
  · rw [elevate_ok nonempty upwards]
    exact iff_of_true rfl upwards
  · rw [elevate, if_pos (Nat.lt_of_not_le upwards)]
    exact iff_of_false Bool.false_ne_true upwards

theorem reduce_ok (positive : 0 < target) (downwards : target ≤ vector.length) :
    reduce vector target = .ok (blockMeans vector target) :=
  if_neg (by omega)

theorem reduce_isOk_iff (positive : 0 < target) :
    (reduce vector target).isOk = true ↔ target ≤ vector.length := by
  by_cases downwards : target ≤ vector.length
  · rw [reduce_ok positive downwards]
    exact iff_of_true rfl downwards
  · rw [reduce, if_pos (.inl (Nat.lt_of_not_le downwards))]
    exact iff_of_false Bool.false_ne_true downwards

end Dimension

namespace Engine

variable {α : Type} [Scalar α] {engine : Engine α} {vector : List α} {depth : Nat}

omit [Scalar α] in
/-- The settings of two engines agree, also those of their expanders. -/
def SameSettings (before after : Engine α) : Prop :=
  after.settings = before.settings ∧ after.expander.settings = before.expander.settings

theorem numericPhase_beyond (nonempty : vector ≠ [])
    (beyond : engine.expander.settings.maxDepth < depth) :
    engine.numericPhase vector depth =
      (.error (.depthExceeded depth engine.expander.settings.maxDepth), engine) := by
  obtain ⟨origin, rest, rfl⟩ := List.exists_cons_of_ne_nil nonempty
  rw [numericPhase, Expander.extendAll_beyond origin rest beyond]

theorem numericPhase_within (nonempty : vector ≠ [])
    (within : depth ≤ engine.expander.settings.maxDepth) :
    ∃ phase next, engine.numericPhase vector depth = (.ok phase, next) ∧
      engine.SameSettings next := by
  obtain ⟨expansions, expander, extended, same⟩ := Expander.extendAll_within vector within
  have positive := List.length_pos_iff.mpr nonempty
  have elevated : Dimension.elevate vector (vector.length * 2) = .ok _ :=
    Dimension.elevate_ok nonempty (by omega)
  have reduced : Dimension.reduce vector (max (vector.length / 2) 1) = .ok _ :=
    Dimension.reduce_ok (by omega) (by omega)
  exact ⟨_, { engine with expander },
    by simp only [numericPhase, extended, elevated, reduced]; rfl, rfl, same⟩

theorem mapM_leaf_ne_nil (nonempty : vector ≠ []) (n : Nat) :
    (vector.mapM Formula.leaf n).1 ≠ [] := by
  have same := (Fresh.mapM_results Formula.leaf vector n).length_eq
  intro empty
  rw [empty, List.length_nil] at same
  exact nonempty (List.length_eq_zero_iff.mp same)

theorem formulaPhase_ok (engine : Engine α) (nonempty : vector ≠ []) (mode : SynthesisMode)
    (n : Nat) : ∃ phase m, engine.formulaPhase vector mode n = (.ok phase, m) := by
  have some := mapM_leaf_ne_nil nonempty n
  simp only [formulaPhase, bind, StateT.bind]
  generalize vector.mapM Formula.leaf n = drawn at some ⊢
  obtain ⟨formulas, k⟩ := drawn
  obtain ⟨first, rest, rfl⟩ := List.exists_cons_of_ne_nil some
  exact ⟨_, _, rfl⟩

variable [NumberText α]

theorem run_empty (engine : Engine α) (options : RunOptions) (n : Nat) :
    engine.run [] options n = ((.error (.range (.emptyVector .run)), engine), n) := rfl

theorem run_beyond {options : RunOptions} (nonempty : vector ≠ [])
    (beyond : engine.expander.settings.maxDepth < options.depth) (n : Nat) :
    engine.run vector options n =
      ((.error (.range (.depthExceeded options.depth engine.expander.settings.maxDepth)), engine),
        n) := by
  have given : ¬vector.isEmpty = true := fun empty => nonempty (List.isEmpty_iff.mp empty)
  rw [run, if_neg given, numericPhase_beyond nonempty beyond]
  rfl

theorem run_within {options : RunOptions} (nonempty : vector ≠ [])
    (within : options.depth ≤ engine.expander.settings.maxDepth) (n : Nat) :
    ∃ report next, (engine.run vector options n).1 = (.ok report, next) ∧
      engine.SameSettings next := by
  have given : ¬vector.isEmpty = true := fun empty => nonempty (List.isEmpty_iff.mp empty)
  obtain ⟨numeric, next, counted, same⟩ := numericPhase_within nonempty within
  obtain ⟨formula, m, formed⟩ := formulaPhase_ok next nonempty options.mode n
  rw [run, if_neg given, counted]
  simp only [bind, StateT.bind, formed]
  exact ⟨_, _, rfl, same⟩

end Engine
end FormulaLab
