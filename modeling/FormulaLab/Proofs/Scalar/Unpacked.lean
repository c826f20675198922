import FormulaLab.Proofs.Scalar.Rounding

/-! Rounding of unpacked binary64 numbers, read on whole numbers of units. -/

namespace FormulaLab.Binary64

open Float.Model Float.Model.UnpackedFloat

/-- What the two residual bits say of the digits that a shift has dropped. -/
structure Truncates (em : ExtendedMantissa) (n s : Nat) : Prop where
  mantissa : em.mantissa = n / 2 ^ s
  roundBit : em.roundBit = decide (2 ^ s ≤ 2 * (n % 2 ^ s))
  stickyBit : em.stickyBit = decide (2 * (n % 2 ^ s) ≠ 0 ∧ 2 * (n % 2 ^ s) ≠ 2 ^ s)

theorem Truncates.shiftRightOne {em : ExtendedMantissa} {n s : Nat} (truncates : Truncates em n s) :
    Truncates em.shiftRightOne n (s + 1) := by
  obtain ⟨mantissa, roundBit, stickyBit⟩ := truncates
  have positive : 0 < 2 ^ s := Nat.two_pow_pos s
  have small : n % 2 ^ s < 2 ^ s := Nat.mod_lt n positive
  have digit : n % 2 ^ (s + 1) = n % 2 ^ s + 2 ^ s * (n / 2 ^ s % 2) := Nat.mod_pow_succ
  have twice : 2 ^ (s + 1) = 2 * 2 ^ s := by rw [Nat.pow_succ, Nat.mul_comm]
  refine ⟨?_, ?_, ?_⟩
  · rw [ExtendedMantissa.shiftRightOne, mantissa, Nat.div_div_eq_div_mul, Nat.pow_succ]
  · simp only [ExtendedMantissa.shiftRightOne, mantissa]
    obtain even | odd := Nat.mod_two_eq_zero_or_one (n / 2 ^ s)
    · rw [even] at digit ⊢
      simp
      omega
    · rw [odd] at digit ⊢
      simp
      omega
  -- The old round bit joins the sticky digits, whether or not another one follows it.
  · simp only [ExtendedMantissa.shiftRightOne, roundBit, stickyBit]
    obtain even | odd := Nat.mod_two_eq_zero_or_one (n / 2 ^ s)
    · rw [even] at digit
      rw [Bool.eq_iff_iff]
      simp
      omega
    · rw [odd] at digit
      rw [Bool.eq_iff_iff]
      simp
      omega

theorem truncates_shift (m s : Nat) :
    Truncates (ExtendedMantissa.mk m false false >>> s) m s := by
  induction s with
  | zero => exact ⟨(Nat.div_one m).symm, by simp [Nat.mod_one]; rfl, by simp [Nat.mod_one]; rfl⟩
  | succ s ih => exact ih.shiftRightOne

theorem Truncates.roundedMantissa {em : ExtendedMantissa} {n s : Nat}
    (truncates : Truncates em n s) : em.roundedMantissa = halfEven n s := by
  obtain ⟨m, r, t⟩ := em
  obtain ⟨mantissa, roundBit, stickyBit⟩ := truncates
  simp only at mantissa roundBit stickyBit
  have positive : 0 < 2 ^ s := Nat.two_pow_pos s
  rw [halfEven, ← mantissa]
  cases r with
  | false =>
    have below : 2 * (n % 2 ^ s) < 2 ^ s := by simpa using roundBit
    rw [if_pos below]
    cases t <;> rfl
  | true =>
    have above : 2 ^ s ≤ 2 * (n % 2 ^ s) := by simpa using roundBit
    rw [if_neg (Nat.not_lt.mpr above)]
    cases t with
    | false =>
      have half : 2 * (n % 2 ^ s) = 2 ^ s := by
        simp at stickyBit
        omega
      rw [if_pos half]
      rfl
    | true =>
      have more : 2 * (n % 2 ^ s) ≠ 2 ^ s := by
        simp at stickyBit
        omega
      rw [if_neg more]
      rfl

variable {m k : Nat}

theorem targetExponent_eq (positive : 0 < m) :
    Format.binary64.targetExponent (totalExponent m ((k : Int) - 1074)) =
      (dropped (m * 2 ^ k) : Int) - 1074 := by
  rw [dropped, log2_mul_two_pow positive]
  simp only [Format.targetExponent, totalExponent, Format.mantissaBits, Format.minExponent]
  omega

theorem shiftToTargetExponent_eq (positive : 0 < m) :
    shiftToTargetExponent .binary64 m ((k : Int) - 1074) .exact =
      (ExtendedMantissa.mk m false false >>> (dropped (m * 2 ^ k) - k),
        ((max k (dropped (m * 2 ^ k)) : Nat) : Int) - 1074) := by
  simp only [shiftToTargetExponent, shiftToExponent, targetExponent_eq positive,
    ExtendedMantissa.ofMantissaAndAccuracy]
  congr 1
  · congr 1
    omega
  · omega

/-- A carry shifts a significand by one more place, nothing else does. -/
theorem shiftToTargetExponent_short (positive : 0 < m) (short : m ≤ 2 ^ 53)
    (full : 2 ^ 52 ≤ m ∨ k = 0) :
    ∃ n j : Nat, (shiftToTargetExponent .binary64 m ((k : Int) - 1074) .exact).1.mantissa = n ∧
      (shiftToTargetExponent .binary64 m ((k : Int) - 1074) .exact).2 = (j : Int) - 1074 ∧
      0 < n ∧ n < 2 ^ 53 ∧ (2 ^ 52 ≤ n ∨ j = 0) ∧ j * 2 ^ 52 + n = k * 2 ^ 52 + m := by
  rw [shiftToTargetExponent_eq positive]
  obtain less | rfl := Nat.lt_or_eq_of_le short
  · refine ⟨m, k, ?_, ?_, positive, less, full, rfl⟩
    · rw [dropped_mul_two_pow less full, Nat.sub_self]
      rfl
    · rw [dropped_mul_two_pow less full, Nat.max_self]
  · have carry : dropped (2 ^ 53 * 2 ^ k) = k + 1 := by
      rw [dropped, log2_mul_two_pow positive, Nat.log2_two_pow]
      omega
    refine ⟨2 ^ 52, k + 1, ?_, ?_, by decide, by decide, .inl (Nat.le_refl _), by omega⟩
    · rw [carry, Nat.add_sub_cancel_left]
      rfl
    · rw [carry, Nat.max_eq_right (Nat.le_succ k)]

theorem decreaseExponent_eq (m k d : Nat) :
    decreaseExponent m ((k : Int) - 1074) ((d : Int) - 1074) =
      (m * 2 ^ (k - d), ((min k d : Nat) : Int) - 1074) := by
  simp only [decreaseExponent, Nat.shiftLeft_eq]
  congr 1
  · congr 2
    omega
  · omega

/-- Where no digit has to be made up, shifting to the target exponent rounds to the nearest word. -/
theorem roundWithAccuracy_eq (s : Sign) (positive : 0 < m) (late : k ≤ dropped (m * 2 ^ k)) :
    ∃ (n j : Nat) (nonzero : 0 < n),
      roundWithAccuracy .binary64 s m ((k : Int) - 1074) .exact =
        .finite s n ((j : Int) - 1074) nonzero ∧
      n < 2 ^ 53 ∧ (2 ^ 52 ≤ n ∨ j = 0) ∧ j * 2 ^ 52 + n = nearestWord (m * 2 ^ k) := by
  have rounded : (ExtendedMantissa.mk m false false >>>
      (dropped (m * 2 ^ k) - k)).roundedMantissa = halfEven (m * 2 ^ k) (dropped (m * 2 ^ k)) := by
    rw [(truncates_shift _ _).roundedMantissa, ← halfEven_mul_two_pow _ _ k,
      Nat.sub_add_cancel late]
  have whole : 0 < m * 2 ^ k := Nat.mul_pos positive (Nat.two_pow_pos k)
  have full : 2 ^ 52 ≤ halfEven (m * 2 ^ k) (dropped (m * 2 ^ k)) ∨ dropped (m * 2 ^ k) = 0 :=
    (Nat.eq_zero_or_pos _).symm.imp le_halfEven_dropped id
  obtain ⟨n, j, mantissa, exponent, nonzero, short, normal, word⟩ :=
    shiftToTargetExponent_short (halfEven_dropped_pos whole) (halfEven_dropped_le _) full
  refine ⟨n, j, nonzero, ?_, short, normal, word⟩
  unfold roundWithAccuracy
  rw [shiftToTargetExponent_eq positive, Nat.max_eq_right late]
  dsimp only
  rw [rounded]
  generalize shiftToTargetExponent .binary64 _ _ .exact = second at mantissa exponent ⊢
  obtain ⟨em, e⟩ := second
  dsimp only at mantissa exponent ⊢
  subst mantissa exponent
  rw [dif_neg (Nat.ne_of_gt nonzero)]

/-- Rounding of a positive magnitude gives the significand and the exponent of its nearest word. -/
theorem round_eq (s : Sign) (positive : 0 < m) :
    ∃ (n j : Nat) (nonzero : 0 < n),
      Float.Model.UnpackedFloat.round .binary64 s m ((k : Int) - 1074) =
        .finite s n ((j : Int) - 1074) nonzero ∧
      n < 2 ^ 53 ∧ (2 ^ 52 ≤ n ∨ j = 0) ∧ j * 2 ^ 52 + n = nearestWord (m * 2 ^ k) := by
  generalize target : dropped (m * 2 ^ k) = d
  have shifted : 0 < m * 2 ^ (k - d) := Nat.mul_pos positive (Nat.two_pow_pos _)
  have whole : m * 2 ^ (k - d) * 2 ^ min k d = m * 2 ^ k := by
    rw [Nat.mul_assoc, ← Nat.pow_add]
    congr 2
    omega
  unfold Float.Model.UnpackedFloat.round
  rw [targetExponent_eq positive, target]
  dsimp only
  rw [decreaseExponent_eq, ← whole]
  refine roundWithAccuracy_eq s shifted ?_
  rw [whole, target]
  exact Nat.min_le_right k d

end FormulaLab.Binary64
