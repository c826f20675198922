import FormulaLab.Proofs.Scalar.Encoding

/-! Comparison and addition of encoded numbers. Numbers compare as their signed magnitude bits do. A
sum is exact in whole units and is then rounded, so it grows with either operand. -/

namespace FormulaLab.Binary64

open Float.Model Float.Model.UnpackedFloat

variable {u v : UnpackedFloat} {s t : Sign} {w x : Nat}

theorem compare_words {m n k j : Nat} (shortM : m < 2 ^ 53) (fullM : 2 ^ 52 ≤ m ∨ k = 0)
    (shortN : n < 2 ^ 53) (fullN : 2 ^ 52 ≤ n ∨ j = 0) :
    (compare ((k : Int) - 1074) ((j : Int) - 1074)).then (compare m n) =
      compare ((k * 2 ^ 52 + m : Nat) : Int) ((j * 2 ^ 52 + n : Nat) : Int) := by
  obtain less | rfl | greater := Nat.lt_trichotomy k j
  · rw [Int.compare_eq_lt.mpr (by omega), Int.compare_eq_lt.mpr (by omega)]
    rfl
  · rw [Int.compare_eq_eq.mpr rfl, Ordering.then, Nat.compare_eq_ite_lt, Int.compare_eq_ite_lt]
    simp
  · rw [Int.compare_eq_gt.mpr (by omega), Int.compare_eq_gt.mpr (by omega)]
    rfl

theorem Encodes.compare_eq (first : Encodes u s w) (second : Encodes v t x) :
    u.compare v = some (compare (s.apply w) (t.apply x)) := by
  have lt {a b : Int} (less : a < b) : some Ordering.lt = some (compare a b) :=
    congrArg some (Int.compare_eq_lt.mpr less).symm
  have gt {a b : Int} (greater : b < a) : some Ordering.gt = some (compare a b) :=
    congrArg some (Int.compare_eq_gt.mpr greater).symm
  cases first with
  | zero =>
    cases second with
    | zero => cases s <;> cases t <;> rfl
    | finite _ nonzero =>
      cases t with
      | negative => cases s <;> exact gt (by simp only [Sign.apply]; omega)
      | positive => cases s <;> exact lt (by simp only [Sign.apply]; omega)
    | infinity => cases s <;> cases t <;> rfl
  | @finite _ m k nonzero short full bounded =>
    cases second with
    | zero =>
      cases s with
      | negative => cases t <;> exact lt (by simp only [Sign.apply]; omega)
      | positive => cases t <;> exact gt (by simp only [Sign.apply]; omega)
    | @finite _ n j nonzero' short' full' bounded' =>
      have words := compare_words short full short' full'
      cases s with
      | negative =>
        cases t with
        | negative =>
          rw [UnpackedFloat.compare, words, Int.compare_swap]
          simp only [Sign.apply, Int.compare_eq_ite_lt, Int.neg_lt_neg_iff]
        | positive => exact lt (by simp only [Sign.apply]; omega)
      | positive =>
        cases t with
        | negative => exact gt (by simp only [Sign.apply]; omega)
        | positive => exact congrArg some words
    | infinity =>
      have large : k * 2 ^ 52 + m < infiniteWord := by
        unfold infiniteWord
        omega
      cases t with
      | negative => cases s <;> exact gt (by simp only [Sign.apply]; omega)
      | positive => cases s <;> exact lt (by simp only [Sign.apply]; omega)
  | infinity =>
    cases second with
    | zero => cases s <;> cases t <;> rfl
    | @finite _ m k nonzero short full bounded =>
      have large : k * 2 ^ 52 + m < infiniteWord := by
        unfold infiniteWord
        omega
      cases s with
      | negative => cases t <;> exact lt (by simp only [Sign.apply]; omega)
      | positive => cases t <;> exact gt (by simp only [Sign.apply]; omega)
    | infinity => cases s <;> cases t <;> rfl

/-- Number of units that magnitude bits stand for. -/
def units (w : Nat) : Nat := (w - (w / 2 ^ 52 - 1) * 2 ^ 52) * 2 ^ (w / 2 ^ 52 - 1)

theorem units_eq {m k : Nat} (short : m < 2 ^ 53) (full : 2 ^ 52 ≤ m ∨ k = 0) :
    units (k * 2 ^ 52 + m) = m * 2 ^ k := by
  have exponent : (k * 2 ^ 52 + m) / 2 ^ 52 - 1 = k := by omega
  rw [units, exponent, Nat.add_sub_cancel_left]

/-- Magnitude bits after rounding, infinite from the largest exponent on. -/
def nearest (n : Nat) : Nat := min (nearestWord n) infiniteWord

theorem nearest_mono {m n : Nat} (le : m ≤ n) : nearest m ≤ nearest n := by
  have words := nearestWord_mono le
  unfold nearest
  omega

/-- The odd extension of a function of magnitudes. -/
def signed (f : Nat → Nat) (n : Int) : Int := if 0 ≤ n then f n.toNat else -f (-n).toNat

theorem signed_mono {f : Nat → Nat} (mono : ∀ m n, m ≤ n → f m ≤ f n) {m n : Int} (le : m ≤ n) :
    signed f m ≤ signed f n := by
  unfold signed
  split
  next positive =>
    rw [if_pos (Int.le_trans positive le)]
    exact Int.ofNat_le.mpr (mono _ _ (by omega))
  next negative =>
    split
    next positive => omega
    next both => exact Int.neg_le_neg (Int.ofNat_le.mpr (mono _ _ (by omega)))

theorem signed_neg {f : Nat → Nat} (zero : f 0 = 0) (n : Int) : signed f (-n) = -signed f n := by
  unfold signed
  obtain negative | rfl | positive := Int.lt_trichotomy n 0
  · rw [if_pos (by omega), if_neg (by omega), Int.neg_neg]
  · simp [zero]
  · rw [if_neg (by omega), if_pos (by omega), Int.neg_neg]

theorem signed_apply {f : Nat → Nat} (zero : f 0 = 0) (s : Sign) (n : Nat) :
    signed f (s.apply n) = s.apply (f n) := by
  cases s with
  | positive => exact if_pos (Int.natCast_nonneg n)
  | negative =>
    rw [Sign.apply, signed_neg zero]
    exact congrArg Neg.neg (if_pos (Int.natCast_nonneg n))

theorem round_encodes (s : Sign) {m : Nat} (positive : 0 < m) (k : Nat) :
    Encodes (UnpackedFloat.unpack .binary64 (UnpackedFloat.pack .binary64
      (Float.Model.UnpackedFloat.round .binary64 s m ((k : Int) - 1074)))) s
      (nearest (m * 2 ^ k)) := by
  obtain ⟨n, j, nonzero, rounded, short, full, word⟩ := round_eq s positive
  rw [rounded, nearest, ← word]
  exact unpack_pack_finite s nonzero short full

theorem nearest_zero : nearest 0 = 0 := by
  have exact := @nearestWord_exact 0 0 (by decide) (.inr rfl)
  rw [nearest, ← Nat.zero_mul (2 ^ 0), exact]
  rfl

theorem normalize_encodes (n : Int) (k : Nat) (zeroSign : Sign) :
    ∃ r z, Encodes (UnpackedFloat.unpack .binary64 (UnpackedFloat.pack .binary64
        (UnpackedFloat.normalize .binary64 n ((k : Int) - 1074) zeroSign))) r z ∧
      r.apply z = signed nearest (n * 2 ^ k) := by
  unfold UnpackedFloat.normalize
  split
  next less =>
    have negative := Int.compare_eq_lt.mp less
    have positive : 0 < (-n).toNat := by omega
    refine ⟨_, _, round_encodes .negative positive k, ?_⟩
    have whole : n * 2 ^ k = Sign.negative.apply ((-n).toNat * 2 ^ k : Nat) := by
      simp only [Sign.apply]
      push_cast
      rw [Int.toNat_of_nonneg (by omega), Int.neg_mul, Int.neg_neg]
    rw [whole, signed_apply nearest_zero]
  next same =>
    obtain rfl := Int.compare_eq_eq.mp same
    refine ⟨zeroSign, 0, (Encodes.zero zeroSign).unpack_pack, ?_⟩
    rw [Int.zero_mul]
    cases zeroSign <;> rfl
  next greater =>
    have above := Int.compare_eq_gt.mp greater
    have positive : 0 < n.toNat := by omega
    refine ⟨_, _, round_encodes .positive positive k, ?_⟩
    have whole : n * 2 ^ k = Sign.positive.apply (n.toNat * 2 ^ k : Nat) := by
      simp only [Sign.apply]
      push_cast
      rw [Int.toNat_of_nonneg (by omega)]
    rw [whole, signed_apply nearest_zero]

theorem nearestWord_units (w : Nat) : nearestWord (units w) = w := by
  have word : (w / 2 ^ 52 - 1) * 2 ^ 52 + (w - (w / 2 ^ 52 - 1) * 2 ^ 52) = w := by omega
  rw [units, nearestWord_exact (by omega) (by omega), word]

theorem nearest_units (finite : w < infiniteWord) : nearest (units w) = w := by
  rw [nearest, nearestWord_units]
  exact Nat.min_eq_left (Nat.le_of_lt finite)

/-- Different magnitude bits stand for different magnitudes, since rounding finds them again. -/
theorem units_mono (le : w ≤ x) : units w ≤ units x := by
  refine Nat.le_of_not_lt fun less => ?_
  have back := nearestWord_mono (Nat.le_of_lt less)
  rw [nearestWord_units, nearestWord_units] at back
  rw [Nat.le_antisymm le back] at less
  exact Nat.lt_irrefl _ less

theorem add_unpacked_comm (u v : UnpackedFloat) :
    UnpackedFloat.add .binary64 u v = UnpackedFloat.add .binary64 v u := by
  cases u with
  | notANumber => cases v <;> rfl
  | infinity s =>
    cases v with
    | infinity t => cases s <;> cases t <;> rfl
    | _ => rfl
  | zero s =>
    cases v with
    | zero t => cases s <;> cases t <;> rfl
    | _ => rfl
  | finite s m e nonzero =>
    cases v with
    | finite t n f nonzero' =>
      simp only [UnpackedFloat.add]
      rw [Int.min_comm, Int.add_comm]
    | _ => rfl

theorem apply_mul_two_pow (s : Sign) (m k j : Nat) (le : j ≤ k) :
    s.apply (m * 2 ^ (k - j) : Nat) * 2 ^ j = s.apply (m * 2 ^ k : Nat) := by
  have whole : m * 2 ^ (k - j) * 2 ^ j = m * 2 ^ k := by
    rw [Nat.mul_assoc, ← Nat.pow_add, Nat.sub_add_cancel le]
  cases s with
  | positive =>
    simp only [Sign.apply]
    exact_mod_cast whole
  | negative =>
    simp only [Sign.apply, Int.neg_mul]
    exact_mod_cast congrArg (fun n : Nat => -(n : Int)) whole

/-- A finite sum is the nearest number to the exact one. -/
theorem add_encodes (first : Encodes u s w) (second : Encodes v t x) (finiteU : w < infiniteWord)
    (finiteV : x < infiniteWord) :
    ∃ r z, Encodes (UnpackedFloat.unpack .binary64 (UnpackedFloat.pack .binary64
        (UnpackedFloat.add .binary64 u v))) r z ∧
      r.apply z = signed nearest (s.apply (units w) + t.apply (units x)) := by
  have nothing (r : Sign) : r.apply (units 0) = 0 := by cases r <;> rfl
  cases first with
  | zero =>
    rw [nothing, Int.zero_add, signed_apply nearest_zero, nearest_units finiteV]
    cases second with
    | zero => cases s <;> cases t <;> exact ⟨_, 0, (Encodes.zero _).unpack_pack, rfl⟩
    | finite _ nonzero short full bounded =>
      exact ⟨t, _, (Encodes.finite t nonzero short full bounded).unpack_pack, rfl⟩
    | infinity => exact absurd finiteV (Nat.lt_irrefl _)
  | @finite _ m k nonzero short full bounded =>
    cases second with
    | zero =>
      rw [nothing, Int.add_zero, signed_apply nearest_zero, nearest_units finiteU]
      exact ⟨s, _, (Encodes.finite s nonzero short full bounded).unpack_pack, rfl⟩
    | @finite _ n j nonzero' short' full' bounded' =>
      have smaller : min ((k : Int) - 1074) ((j : Int) - 1074) = ((min k j : Nat) : Int) - 1074 := by
        omega
      rw [units_eq short full, units_eq short' full', UnpackedFloat.add, smaller]
      dsimp only
      rw [decreaseExponent_eq, decreaseExponent_eq, ← apply_mul_two_pow s m k _ (Nat.min_le_left k j),
        ← apply_mul_two_pow t n j _ (Nat.min_le_right k j), ← Int.add_mul]
      exact normalize_encodes _ _ _
    | infinity => exact absurd finiteV (Nat.lt_irrefl _)
  | infinity => exact absurd finiteU (Nat.lt_irrefl _)

end FormulaLab.Binary64
