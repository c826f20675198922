import FormulaLab.Proofs.Scalar.Difference

/-! Distances. A sum or a difference is finite only where both operands are, and a magnitude is not below
zero, so that a sum of magnitudes that is small is a sum of finite ones. -/

namespace FormulaLab.Scalar

/-- Sums and differences of values without a finite value have none, and magnitudes of differences of
finite values compare with every number. -/
class Distances (α : Type) [Scalar α] : Prop where
  isFinite_add (a b : α) : isFinite (a + b) = true → isFinite a = true ∧ isFinite b = true
  isFinite_sub (a b : α) : isFinite (a - b) = true → isFinite a = true ∧ isFinite b = true
  abs_sub_self_le (a bound : α) : isFinite a = true → 0 ≤ bound → abs (a - a) ≤ bound
  lt_abs_sub (a b bound : α) : isFinite a = true → isFinite b = true → isNaN bound = false →
    ¬abs (a - b) ≤ bound → bound < abs (a - b)
  abs_nonneg (a : α) : isNaN (abs a) = true ∨ 0 ≤ abs a
  isNaN_of_lt (a b : α) : a < b → isNaN a = false
  isFinite_of_lt (a b : α) : 0 ≤ a → a < b → isFinite a = true

section Sums

variable {α : Type} [Scalar α] {xs : List α}

/-- Nothing in a finite sum is infinite. -/
theorem isFinite_of_sum [Distances α] (finite : isFinite (sum xs) = true) : ∀ x ∈ xs, isFinite x = true := by
  have along (start : α) (total : isFinite (xs.foldl (· + ·) start) = true) :
      isFinite start = true ∧ ∀ x ∈ xs, isFinite x = true := by
    clear finite
    induction xs generalizing start with
    | nil => exact ⟨total, fun _ member => absurd member List.not_mem_nil⟩
    | cons x xs ih =>
      obtain ⟨first, rest⟩ := ih (start + x) total
      obtain ⟨before, here⟩ := Distances.isFinite_add start x first
      exact ⟨before, List.forall_mem_cons.mpr ⟨here, rest⟩⟩
  exact (along (-0) finite).2

/-- What is not below zero adds up to such a value, unless something in it is not a number. -/
theorem sum_isNaN_or_nonneg [NonnegativeSums α] [Absorbing α]
    (each : ∀ x ∈ xs, isNaN x = true ∨ 0 ≤ x) : isNaN (sum xs) = true ∨ 0 ≤ sum xs := by
  have along (start : α) (begun : isNaN start = true ∨ 0 ≤ start) :
      isNaN (xs.foldl (· + ·) start) = true ∨ 0 ≤ xs.foldl (· + ·) start := by
    induction xs generalizing start with
    | nil => exact begun
    | cons x xs ih =>
      obtain ⟨first, rest⟩ := List.forall_mem_cons.mp each
      refine ih rest (start + x) ?_
      rcases begun with other | above
      · exact .inl (Absorbing.isNaN_add start x (.inl other))
      · rcases first with other | also
        · exact .inl (Absorbing.isNaN_add start x (.inr other))
        · exact .inr (NonnegativeSums.add_nonneg start x above also)
  exact along (-0) (.inr NonnegativeSums.zero_le)

end Sums

end FormulaLab.Scalar

namespace FormulaLab.Binary64

open Float.Model Float.Model.UnpackedFloat

variable {x y : Float} {u v : UnpackedFloat}

theorem isFinite_unpack_pack (infinite : u.isFinite = false) :
    (UnpackedFloat.unpack .binary64 (UnpackedFloat.pack .binary64 u)).isFinite = false := by
  cases u with
  | notANumber => rfl
  | infinity s => cases s <;> rfl
  | zero | finite => contradiction

theorem isFinite_add_unpacked (either : u.isFinite = false ∨ v.isFinite = false) :
    (UnpackedFloat.add .binary64 u v).isFinite = false := by
  cases u with
  | notANumber => cases v <;> rfl
  | infinity s =>
    cases v with
    -- Infinities of opposite signs add up to no number, others to one of them.
    | infinity t => cases s <;> cases t <;> rfl
    | _ => rfl
  | zero | finite =>
    cases v with
    | notANumber | infinity => rfl
    | zero | finite => exact absurd either (by simp [UnpackedFloat.isFinite])

theorem isFinite_neg_unpacked (u : UnpackedFloat) : u.neg.isFinite = u.isFinite := by
  cases u <;> rfl

theorem isFinite_of_add_unpacked (finite : (UnpackedFloat.unpack .binary64
    (UnpackedFloat.pack .binary64 (UnpackedFloat.add .binary64 u v))).isFinite = true) :
    u.isFinite = true ∧ v.isFinite = true := by
  rw [← Bool.not_eq_false, ← Bool.not_eq_false, ← not_or]
  intro either
  rw [isFinite_unpack_pack (isFinite_add_unpacked either)] at finite
  contradiction

theorem isFinite_of_add (finite : (x + y).isFinite = true) : x.isFinite = true ∧ y.isFinite = true :=
  isFinite_of_add_unpacked finite

theorem isFinite_of_sub (finite : (x - y).isFinite = true) : x.isFinite = true ∧ y.isFinite = true := by
  change (UnpackedFloat.unpack .binary64 (UnpackedFloat.pack .binary64
    (UnpackedFloat.sub .binary64 x.toModel.unpack y.toModel.unpack))).isFinite = true at finite
  rw [sub_unpacked] at finite
  obtain ⟨first, second⟩ := isFinite_of_add_unpacked finite
  exact ⟨first, (isFinite_neg_unpacked _).symm.trans second⟩

theorem place_sub_self (finite : x.isFinite = true) : IsNumber (x - x) ∧ place (x - x) = 0 := by
  obtain ⟨number, same⟩ := place_sub finite finite
  have zero : signed nearest 0 = 0 := by
    rw [signed, if_pos (Int.le_refl 0)]
    exact congrArg Nat.cast nearest_zero
  rw [Int.sub_self, zero] at same
  exact ⟨number, same⟩

end FormulaLab.Binary64

namespace FormulaLab.Scalar

open Binary64

instance : Distances Float where
  isFinite_add _ _ := isFinite_of_add
  isFinite_sub _ _ := isFinite_of_sub
  abs_sub_self_le a bound finite above := by
    obtain ⟨number, nothing⟩ := place_sub_self finite
    obtain ⟨absolute, same⟩ := place_abs number
    obtain ⟨numberBound, placeBound⟩ := zero_le_iff.mp above
    refine le_iff.mpr ⟨absolute, numberBound, ?_⟩
    change place (a - a).abs ≤ place bound
    rw [same, nothing]
    exact placeBound
  lt_abs_sub a b bound finiteA finiteB number notLe := by
    have numberBound := isNumber_of_isNaN_eq_false number
    have absolute := isNumber_abs.mpr (place_sub finiteA finiteB).1
    refine lt_iff.mpr ⟨numberBound, absolute, Int.not_le.mp fun le => ?_⟩
    exact notLe (le_iff.mpr ⟨absolute, numberBound, le⟩)
  abs_nonneg a := by
    by_cases number : IsNumber a
    · obtain ⟨absolute, same⟩ := place_abs number
      exact .inr (zero_le_iff.mpr ⟨absolute, same ▸ Int.natCast_nonneg _⟩)
    · have other : ¬IsNumber a.abs := mt isNumber_abs.mp number
      exact .inl (isNaN_iff.mpr (unpack_of_not_isNumber other))
  isNaN_of_lt a b less := by
    refine Bool.eq_false_iff.mpr fun other => ?_
    exact isNumber_iff.mp (lt_iff.mp less).1 (isNaN_iff.mp other)
  isFinite_of_lt a b above less := by
    obtain ⟨_, numberB, lower⟩ := lt_iff.mp less
    have start := (zero_le_iff.mp above).2
    have bound := place_le numberB
    refine isFinite_iff.mpr ?_
    rw [← natAbs_place]
    omega

instance : Distances ℝ where
  isFinite_add _ _ _ := ⟨rfl, rfl⟩
  isFinite_sub _ _ _ := ⟨rfl, rfl⟩
  abs_sub_self_le a bound _ above := by
    change |a - a| ≤ bound
    change ((0 : Nat) : ℝ) ≤ bound at above
    rwa [sub_self, abs_zero, ← Nat.cast_zero]
  lt_abs_sub _ _ _ _ _ _ := lt_of_not_ge
  abs_nonneg a := by
    refine .inr ?_
    change ((0 : Nat) : ℝ) ≤ |a|
    rw [Nat.cast_zero]
    exact abs_nonneg a
  isNaN_of_lt _ _ _ := rfl
  isFinite_of_lt _ _ _ _ := rfl

end FormulaLab.Scalar
