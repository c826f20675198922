import FormulaLab.Scalar.Binary64
import Mathlib

/-! Rounding of magnitudes to binary64, on whole numbers. A magnitude is counted in units of the
smallest subnormal, `2 ^ (-1074)`, and rounded to the magnitude bits of a word. The words of larger
magnitudes are larger, also across a change of the exponent. -/

namespace FormulaLab.Binary64

/-- The quotient by a power of two, rounded to the nearest whole number, a half to the even one. -/
def halfEven (n s : Nat) : Nat :=
  if 2 * (n % 2 ^ s) < 2 ^ s then n / 2 ^ s
  else if 2 * (n % 2 ^ s) = 2 ^ s then n / 2 ^ s + n / 2 ^ s % 2
  else n / 2 ^ s + 1

/-- Number of binary digits that rounding drops to leave fifty-three. -/
def dropped (n : Nat) : Nat := n.log2 - 52

/-- Magnitude bits of the number nearest to `n` units, were there no largest exponent. -/
def nearestWord (n : Nat) : Nat := dropped n * 2 ^ 52 + halfEven n (dropped n)

theorem halfEven_bounds (n s : Nat) :
    n / 2 ^ s ≤ halfEven n s ∧ halfEven n s ≤ n / 2 ^ s + 1 := by
  unfold halfEven
  split
  · omega
  · split <;> omega

theorem halfEven_mono {m n : Nat} (s : Nat) (le : m ≤ n) : halfEven m s ≤ halfEven n s := by
  have quotient : m / 2 ^ s ≤ n / 2 ^ s := Nat.div_le_div_right le
  obtain less | same := Nat.lt_or_eq_of_le quotient
  · have upper := (halfEven_bounds m s).2
    have lower := (halfEven_bounds n s).1
    omega
  · have first := Nat.div_add_mod m (2 ^ s)
    have second := Nat.div_add_mod n (2 ^ s)
    rw [same] at first
    have remainder : m % 2 ^ s ≤ n % 2 ^ s := by omega
    unfold halfEven
    rw [same]
    split_ifs <;> omega

/-- Digits that are zero are dropped without rounding. -/
theorem halfEven_mul_two_pow (m s k : Nat) : halfEven (m * 2 ^ k) (s + k) = halfEven m s := by
  have positive : 0 < 2 ^ k := Nat.two_pow_pos k
  simp only [halfEven, Nat.pow_add, Nat.mul_mod_mul_right, Nat.mul_div_mul_right _ _ positive,
    ← Nat.mul_assoc, Nat.mul_lt_mul_right positive, Nat.mul_left_inj (Nat.ne_of_gt positive)]

theorem halfEven_exact (m s : Nat) : halfEven (m * 2 ^ s) s = m := by
  have exact := halfEven_mul_two_pow m 0 s
  rw [Nat.zero_add] at exact
  rw [exact, halfEven, Nat.pow_zero, Nat.mod_one, Nat.div_one, if_pos (by decide)]

theorem log2_mul_two_pow {m : Nat} (positive : 0 < m) (k : Nat) :
    (m * 2 ^ k).log2 = m.log2 + k := by
  have nonzero : m * 2 ^ k ≠ 0 := Nat.ne_of_gt (Nat.mul_pos positive (Nat.two_pow_pos k))
  rw [Nat.log2_eq_iff nonzero, Nat.pow_add, Nat.add_right_comm, Nat.pow_add]
  refine ⟨Nat.mul_le_mul_right _ (Nat.log2_self_le (Nat.ne_of_gt positive)), ?_⟩
  exact Nat.mul_lt_mul_of_pos_right Nat.lt_log2_self (Nat.two_pow_pos k)

theorem dropped_mono {m n : Nat} (le : m ≤ n) : dropped m ≤ dropped n := by
  by_cases zero : m = 0
  · rw [zero]
    exact Nat.zero_le _
  · have larger : m.log2 ≤ n.log2 := by
      rw [Nat.le_log2 (by omega)]
      exact Nat.le_trans (Nat.log2_self_le zero) le
    exact Nat.sub_le_sub_right larger 52

/-- What is left has fifty-three digits, or one more after a carry. -/
theorem halfEven_dropped_le (n : Nat) : halfEven n (dropped n) ≤ 2 ^ 53 := by
  have below : n / 2 ^ dropped n < 2 ^ 53 := by
    rw [Nat.div_lt_iff_lt_mul (Nat.two_pow_pos _), ← Nat.pow_add]
    have digits : n.log2 + 1 ≤ 53 + dropped n := by
      unfold dropped
      omega
    exact Nat.lt_of_lt_of_le Nat.lt_log2_self (Nat.pow_le_pow_right (by decide) digits)
  have upper := (halfEven_bounds n (dropped n)).2
  omega

/-- Digits are dropped of large magnitudes only, which keep their leading digit. -/
theorem le_halfEven_dropped {n : Nat} (drops : 0 < dropped n) : 2 ^ 52 ≤ halfEven n (dropped n) := by
  have digits : 52 + dropped n = n.log2 := by
    unfold dropped at drops ⊢
    omega
  have nonzero : n ≠ 0 := by
    rintro rfl
    simp [dropped] at drops
  have above : 2 ^ 52 ≤ n / 2 ^ dropped n := by
    rw [Nat.le_div_iff_mul_le (Nat.two_pow_pos _), ← Nat.pow_add, digits]
    exact Nat.log2_self_le nonzero
  exact Nat.le_trans above (halfEven_bounds n (dropped n)).1

theorem nearestWord_mono {m n : Nat} (le : m ≤ n) : nearestWord m ≤ nearestWord n := by
  unfold nearestWord
  -- Across a change of the exponent, the carry out of one range meets the start of the next.
  obtain less | same := Nat.lt_or_eq_of_le (dropped_mono le)
  · have upper := halfEven_dropped_le m
    have lower := le_halfEven_dropped (Nat.lt_of_le_of_lt (Nat.zero_le _) less)
    omega
  · rw [same]
    exact Nat.add_le_add_left (halfEven_mono _ le) _

theorem halfEven_dropped_pos {n : Nat} (positive : 0 < n) : 0 < halfEven n (dropped n) := by
  obtain none | some := Nat.eq_zero_or_pos (dropped n)
  · have whole := halfEven_exact n 0
    rw [Nat.pow_zero, Nat.mul_one] at whole
    rwa [none, whole]
  · exact Nat.lt_of_lt_of_le (Nat.two_pow_pos 52) (le_halfEven_dropped some)

theorem dropped_mul_two_pow {m s : Nat} (short : m < 2 ^ 53) (full : 2 ^ 52 ≤ m ∨ s = 0) :
    dropped (m * 2 ^ s) = s := by
  unfold dropped
  obtain normal | rfl := full
  · have log : m.log2 = 52 := (Nat.log2_eq_iff (by omega)).mpr ⟨normal, short⟩
    rw [log2_mul_two_pow (by omega), log, Nat.add_sub_cancel_left]
  · rw [Nat.pow_zero, Nat.mul_one]
    by_cases zero : m = 0
    · rw [zero, Nat.log2_zero]
    · have log := (Nat.log2_lt zero).mpr short
      omega

/-- A significand of fifty-three digits, or fewer at the smallest exponent, is not rounded. -/
theorem nearestWord_exact {m s : Nat} (short : m < 2 ^ 53) (full : 2 ^ 52 ≤ m ∨ s = 0) :
    nearestWord (m * 2 ^ s) = s * 2 ^ 52 + m := by
  rw [nearestWord, dropped_mul_two_pow short full, halfEven_exact]

end FormulaLab.Binary64
