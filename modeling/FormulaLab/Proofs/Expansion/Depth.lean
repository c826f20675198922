import FormulaLab.Expansion.Memory

/-! Expansions are refused by their depth alone. Within the greatest depth they always succeed, in
ladders and over several origins too, so that a refusal comes before the memory is touched. -/

namespace FormulaLab.Expander

variable {α : Type} [Scalar α] {expander : Expander α} {depth : Nat}

/-- A result with an expander of the same settings. -/
def Succeeds {β : Type} (expander : Expander α) (result : Except RangeError β × Expander α) : Prop :=
  ∃ value next, result = (.ok value, next) ∧ next.settings = expander.settings

theorem extend_beyond (origin : α) (beyond : expander.settings.maxDepth < depth) :
    expander.extend origin depth =
      (.error (.depthExceeded depth expander.settings.maxDepth), expander) :=
  if_pos beyond

theorem extend_within (origin : α) (within : depth ≤ expander.settings.maxDepth) :
    expander.Succeeds (expander.extend origin depth) := by
  rw [extend, if_neg (Nat.not_lt.mpr within)]
  cases expander.remembered? origin depth with
  | some known => exact ⟨known, expander, rfl, rfl⟩
  | none => exact ⟨_, _, rfl, rfl⟩

/-- A ladder succeeds if its last level is within the greatest depth. -/
theorem climb_within (count : Nat) (origin : α)
    (within : depth + count ≤ expander.settings.maxDepth + 1) :
    expander.Succeeds (climb count depth origin expander) := by
  induction count generalizing depth origin expander with
  | zero => exact ⟨[], expander, rfl, rfl⟩
  | succ count ih =>
    have first : depth ≤ expander.settings.maxDepth := by omega
    obtain ⟨level, next, extended, same⟩ := extend_within origin first
    obtain ⟨levels, last, climbed, still⟩ :=
      @ih next (depth + 1) (level.terms.headD 0) (by rw [same]; omega)
    exact ⟨level :: levels, last, by simp only [climb, extended, climbed], still.trans same⟩

theorem extendRecursive_beyond (origin : α) (beyond : expander.settings.maxDepth < depth) :
    expander.extendRecursive origin depth =
      (.error (.depthExceeded depth expander.settings.maxDepth), expander) :=
  if_pos beyond

theorem extendRecursive_within (origin : α) (within : depth ≤ expander.settings.maxDepth) :
    expander.Succeeds (expander.extendRecursive origin depth) := by
  rw [extendRecursive, if_neg (Nat.not_lt.mpr within)]
  exact climb_within depth origin (by omega)

theorem extendAll_beyond (origin : α) (rest : List α)
    (beyond : expander.settings.maxDepth < depth) :
    extendAll depth (origin :: rest) expander =
      (.error (.depthExceeded depth expander.settings.maxDepth), expander) := by
  rw [extendAll, extend_beyond origin beyond]

theorem extendAll_within (origins : List α) (within : depth ≤ expander.settings.maxDepth) :
    expander.Succeeds (extendAll depth origins expander) := by
  induction origins generalizing expander with
  | nil => exact ⟨[], expander, rfl, rfl⟩
  | cons origin rest ih =>
    obtain ⟨first, next, extended, same⟩ := extend_within origin within
    obtain ⟨others, last, all, still⟩ := @ih next (by rw [same]; exact within)
    exact ⟨first :: others, last, by simp only [extendAll, extended, all], still.trans same⟩

/-- One expansion for each origin. -/
theorem extendAll_length {origins : List α} {expansions : List (Expansion α)} {next : Expander α}
    (extended : extendAll depth origins expander = (.ok expansions, next)) :
    expansions.length = origins.length := by
  induction origins generalizing expander expansions with
  | nil =>
    cases extended
    rfl
  | cons origin rest ih =>
    rw [extendAll] at extended
    split at extended
    · cases extended
    · split at extended
      · cases extended
      next others =>
        cases extended
        exact congrArg Nat.succ (ih others)

end FormulaLab.Expander
