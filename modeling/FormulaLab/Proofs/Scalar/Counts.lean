import FormulaLab.Proofs.Scalar.Laws

/-! Counts as binary64 numbers. A count is converted to the nearest number; one of up to fifty-three
binary digits is held exactly, so that rounding finds it again. -/

namespace FormulaLab.Binary64

open Float.Model Float.Model.UnpackedFloat

variable {x : Float} {u : UnpackedFloat} {s : Sign} {m k n : Nat}

theorem mul_two_pow_mul (m : Nat) {i j k : Nat} (places : i + j = k) :
    m * 2 ^ i * 2 ^ j = m * 2 ^ k := by
  rw [Nat.mul_assoc, ← Nat.pow_add, places]

/-- Multiplication by a power of two that is not above one lowers the exponent of a normal number, at
least where no digit has to be made up. -/
theorem mul_twoPower_encodes (d : Nat) (normal : 2 ^ 52 ≤ m) (short : m < 2 ^ 53)
    (late : 52 + d ≤ k) (nonzero : 0 < m) :
    Encodes (UnpackedFloat.unpack .binary64 (UnpackedFloat.pack .binary64
      (UnpackedFloat.mul .binary64 (.finite s m ((k : Int) - 1074) nonzero)
        (.finite .positive (2 ^ 52) (-52 - d) (by decide))))) s
      (min ((k - d) * 2 ^ 52 + m) infiniteWord) := by
  have positive : 0 < m * 2 ^ 52 := Nat.mul_pos nonzero (Nat.two_pow_pos 52)
  have whole : m * 2 ^ 52 * 2 ^ (k - 52 - d) = m * 2 ^ (k - d) :=
    mul_two_pow_mul m (by omega)
  have exponent : (k : Int) - 1074 + (-52 - d) = ((k - 52 - d : Nat) : Int) - 1074 := by omega
  have sign : s * .positive = s := by cases s <;> rfl
  obtain ⟨n, j, some, rounded, shortN, full, word⟩ := roundWithAccuracy_eq s positive
    (by rw [whole, dropped_mul_two_pow short (.inl normal)]; omega)
  rw [UnpackedFloat.mul, exponent, sign, rounded]
  rw [whole, nearestWord_exact short (.inl normal)] at word
  rw [← word]
  exact unpack_pack_finite s some shortN full

theorem toNat_of_encodes (encodes : Encodes x.toModel.unpack .positive n) :
    x.toBits.toNat = n := by
  have number := isNumber_iff.mpr fun same => by
    rw [same] at encodes
    contradiction
  obtain ⟨sign, magnitude⟩ := (encodes_of_isNumber number).unique encodes
  unfold signOf at sign
  have below : x.toBits.toBitVec.toNat < 2 ^ 63 := by
    refine Nat.lt_of_not_le fun above => ?_
    rw [if_neg (Nat.not_lt.mpr above)] at sign
    contradiction
  rw [magnitudeOf, Nat.mod_eq_of_lt below] at magnitude
  exact magnitude

/-- The fields of the word of a normal number. -/
theorem ofFloat_of_encodes (encodes : Encodes x.toModel.unpack .positive (k * 2 ^ 52 + m))
    (normal : 2 ^ 52 ≤ m) (short : m < 2 ^ 53) (bounded : k ≤ 2045) :
    ofFloat x = .finite false m ((k : Int) - 1074) := by
  have exponent : (k * 2 ^ 52 + m) / pow2 52 % pow2 11 = k + 1 := by
    simp only [pow2, Nat.pow_eq]
    omega
  have fraction : (k * 2 ^ 52 + m) % pow2 52 = m - 2 ^ 52 := by
    simp only [pow2, Nat.pow_eq]
    omega
  have sign : (k * 2 ^ 52 + m) / pow2 63 % 2 = 0 := by
    simp only [pow2, Nat.pow_eq]
    omega
  have largest : k + 1 ≠ pow2 11 - 1 := by
    simp only [pow2, Nat.pow_eq]
    omega
  rw [ofFloat, toNat_of_encodes encodes, ofWord, exponent, fraction, sign, if_neg largest,
    if_neg (Nat.succ_ne_zero k)]
  have significand : pow2 52 + (m - 2 ^ 52) = m := by
    simp only [pow2, Nat.pow_eq]
    omega
  rw [significand]
  exact congrArg (Binary64.finite false m) (by omega)

/-- Magnitude bits with a leading digit tell significand and exponent apart. -/
theorem Encodes.eq_finite (encodes : Encodes u s (k * 2 ^ 52 + m)) (normal : 2 ^ 52 ≤ m)
    (short : m < 2 ^ 53) (bounded : k ≤ 2045) :
    ∃ nonzero, u = .finite s m ((k : Int) - 1074) nonzero := by
  generalize word : k * 2 ^ 52 + m = w at encodes
  cases encodes with
  | zero => omega
  | infinity =>
    unfold infiniteWord at word
    omega
  | @finite _ m' k' nonzero short' full' bounded' =>
    obtain rfl : k = k' := by omega
    obtain rfl : m = m' := by omega
    exact ⟨nonzero, rfl⟩

theorem shifted_bounds (positive : 0 < n) (digits : n.log2 ≤ 52) :
    2 ^ 52 ≤ n * 2 ^ (52 - n.log2) ∧ n * 2 ^ (52 - n.log2) < 2 ^ 53 := by
  have nonzero : n ≠ 0 := Nat.ne_of_gt positive
  have log := log2_mul_two_pow positive (52 - n.log2)
  rw [Nat.add_sub_cancel' digits] at log
  exact (Nat.log2_eq_iff (Nat.mul_ne_zero nonzero (Nat.ne_of_gt (Nat.two_pow_pos _)))).mp log

theorem toFloat_encodes {word : UInt64} (positive : 0 < word.toNat) :
    Encodes word.toFloat.toModel.unpack .positive (nearest (word.toNat * 2 ^ 1074)) := by
  have normalized : UnpackedFloat.ofUInt64 .binary64 word =
      Float.Model.UnpackedFloat.round .binary64 .positive word.toNat
        (((1074 : Nat) : Int) - 1074) := by
    have order := Int.compare_eq_gt.mpr (Int.natCast_pos.mpr positive)
    rw [UnpackedFloat.ofUInt64, UnpackedFloat.ofNat, UnpackedFloat.ofInt, UnpackedFloat.normalize,
      order]
    rfl
  have rounded := round_encodes .positive positive 1074
  rw [← normalized] at rounded
  exact rounded

/-- A count is converted as a word and multiplied by one. -/
theorem ofNat_eq (short : n < 2 ^ 53) :
    Float.ofNat n = n.toUInt64.toFloat * Float.exactlyRepresentablePowersOfTen[0] := by
  change Float.ofScientific n false 0 = _
  rw [Float.ofScientific, dif_pos ⟨short, by decide⟩]
  rfl

/-- A count as the significand and the exponent of a normal number. -/
theorem nearest_count (positive : 0 < n) (short : n < 2 ^ 53) :
    nearest (n * 2 ^ 1074) = (1022 + n.log2) * 2 ^ 52 + n * 2 ^ (52 - n.log2) := by
  have digits : n.log2 ≤ 52 := Nat.le_of_lt_succ ((Nat.log2_lt (Nat.ne_of_gt positive)).mpr short)
  obtain ⟨normal, less⟩ := shifted_bounds positive digits
  have finite : (1022 + n.log2) * 2 ^ 52 + n * 2 ^ (52 - n.log2) ≤ infiniteWord := by
    unfold infiniteWord
    omega
  have units : n * 2 ^ (52 - n.log2) * 2 ^ (1022 + n.log2) = n * 2 ^ 1074 :=
    mul_two_pow_mul n (by omega)
  rw [← units, nearest, nearestWord_exact less (.inl normal), Nat.min_eq_left finite]

theorem ofNat_encodes (positive : 0 < n) (short : n < 2 ^ 53) :
    Encodes (Float.ofNat n).toModel.unpack .positive
      ((1022 + n.log2) * 2 ^ 52 + n * 2 ^ (52 - n.log2)) := by
  have digits : n.log2 ≤ 52 := Nat.le_of_lt_succ ((Nat.log2_lt (Nat.ne_of_gt positive)).mpr short)
  obtain ⟨normal, less⟩ := shifted_bounds positive digits
  have finite : (1022 + n.log2) * 2 ^ 52 + n * 2 ^ (52 - n.log2) ≤ infiniteWord := by
    unfold infiniteWord
    omega
  have word : n.toUInt64.toNat = n := UInt64.toNat_ofNat_of_lt' (by rw [UInt64.size]; omega)
  have converted := @toFloat_encodes n.toUInt64 (by rwa [word])
  rw [word, nearest_count positive short] at converted
  obtain ⟨nonzero, unpacked⟩ := converted.eq_finite normal less (by omega)
  have multiplied := @mul_twoPower_encodes .positive _ (1022 + n.log2) 0 normal less (by omega) nonzero
  rw [Nat.sub_zero, Nat.min_eq_left finite, ← unpacked] at multiplied
  rw [ofNat_eq short]
  exact multiplied

/-- A longer count is multiplied by one before it is rounded. -/
theorem ofNat_eq_of_long (long : 2 ^ 53 ≤ n) :
    Float.ofNat n = .ofModel (.pack (UnpackedFloat.roundWithAccuracy .binary64 .positive
      (n * 2 ^ 53 * 1) (((1021 : Nat) : Int) - 1074) .exact)) := by
  have nonzero : n ≠ 0 := by omega
  change Float.ofScientific n false 0 = _
  rw [Float.ofScientific, dif_neg fun both => Nat.not_lt.mpr long both.1]
  dsimp only [Float.Model.ofScientific, UnpackedFloat.ofScientific]
  rw [dif_neg nonzero, if_neg Bool.false_ne_true, if_neg (by decide), if_neg (by simp),
    if_pos (by decide)]
  rw [← Nat.shiftLeft_eq]
  rfl

/-- Every count is converted to the nearest number. -/
theorem ofNat_encodes_nearest (positive : 0 < n) :
    Encodes (Float.ofNat n).toModel.unpack .positive (nearest (n * 2 ^ 1074)) := by
  by_cases short : n < 2 ^ 53
  · rw [nearest_count positive short]
    exact ofNat_encodes positive short
  · have long := Nat.le_of_not_lt short
    have scaled : 0 < n * 2 ^ 53 * 1 := by omega
    have whole : n * 2 ^ 53 * 1 * 2 ^ 1021 = n * 2 ^ 1074 := by
      rw [Nat.mul_one]
      exact mul_two_pow_mul n rfl
    have late : 1021 ≤ dropped (n * 2 ^ 53 * 1 * 2 ^ 1021) := by
      rw [whole, dropped, log2_mul_two_pow positive]
      omega
    obtain ⟨m, j, nonzero, rounded, shortM, full, word⟩ :=
      roundWithAccuracy_eq .positive scaled late
    rw [ofNat_eq_of_long long, rounded, nearest, ← whole, ← word]
    exact unpack_pack_finite .positive nonzero shortM full

/-- Zeros behind the point are no part of a count. -/
theorem roundNat_finite {j : Nat} (small : n ≤ maxCount) :
    roundNat (.finite false (n * 2 ^ j) (-(j : Int))) = n := by
  by_cases whole : j = 0
  · subst whole
    have same : n * 2 ^ 0 * pow2 0 = n := by
      rw [pow2, Nat.pow_eq, Nat.pow_zero, Nat.mul_one, Nat.mul_one]
    exact (congrArg (min maxCount) same).trans (Nat.min_eq_right small)
  · have unit : 0 < 2 ^ j := Nat.two_pow_pos j
    have places : (- -(j : Int)).toNat = j := by omega
    have half : 2 * (n * 2 ^ j) + 2 ^ j = 2 ^ j + 2 * 2 ^ j * n := by ring
    have below : 2 ^ j < 2 * 2 ^ j := by omega
    rw [roundNat, if_neg (by omega), places]
    dsimp only [pow2, Nat.pow_eq]
    rw [half, Nat.add_mul_div_left _ _ (Nat.lt_trans unit below), Nat.div_eq_of_lt below,
      Nat.zero_add]

theorem mul_unpacked_comm (u v : UnpackedFloat) :
    UnpackedFloat.mul .binary64 u v = UnpackedFloat.mul .binary64 v u := by
  have sign (s t : Sign) : s * t = t * s := by cases s <;> cases t <;> rfl
  cases u with
  | finite s m e nonzero =>
    cases v with
    | finite t n f nonzero' => simp only [UnpackedFloat.mul, sign, Nat.mul_comm, Int.add_comm]
    | infinity t => simp only [UnpackedFloat.mul, sign]
    | zero t => simp only [UnpackedFloat.mul, sign]
    | notANumber => rfl
  | infinity s => cases v <;> simp only [UnpackedFloat.mul, sign]
  | zero s => cases v <;> simp only [UnpackedFloat.mul, sign]
  | notANumber => cases v <;> rfl

/-- A quarter of what is at least four is at least one. -/
theorem quarter_encodes (encodes : Encodes u .positive k) (four : 1025 * 2 ^ 52 ≤ k) :
    ∃ w, Encodes (UnpackedFloat.unpack .binary64 (UnpackedFloat.pack .binary64
      (UnpackedFloat.mul .binary64 u (.finite .positive (2 ^ 52) (-54) (by decide))))) .positive w ∧
      1023 * 2 ^ 52 ≤ w := by
  cases encodes with
  | zero => contradiction
  | infinity => exact ⟨infiniteWord, (Encodes.infinity .positive).unpack_pack, by decide⟩
  | @finite _ m k nonzero short full bounded =>
    have shifted := @mul_twoPower_encodes .positive m k 2 (by omega) short (by omega) nonzero
    refine ⟨_, shifted, ?_⟩
    unfold infiniteWord
    omega

theorem one_le_quarter (four : 4 ≤ n) : 1 ≤ 0.25 * Float.ofNat n := by
  have counted := ofNat_encodes_nearest (Nat.lt_of_lt_of_le (by decide) four)
  have digits : Nat.log2 4 = 2 := by decide +kernel
  have least := @nearest_count 4 (by decide) (by decide)
  have above := nearest_mono (Nat.mul_le_mul_right (2 ^ 1074) four)
  rw [least, digits] at above
  have quarter : (0.25 : Float).toModel.unpack = .finite .positive (2 ^ 52) (-54) (by decide) := rfl
  obtain ⟨w, encodes, large⟩ := quarter_encodes counted above
  rw [mul_unpacked_comm, ← quarter] at encodes
  obtain ⟨number, same⟩ := @place_of_encodes (0.25 * Float.ofNat n) _ _ encodes
  have one : place 1 = 1023 * 2 ^ 52 := by decide +kernel
  refine le_iff.mpr ⟨isNumber_of_isFinite (by decide +kernel), number, ?_⟩
  rw [one, same, Sign.apply]
  omega

end FormulaLab.Binary64

namespace FormulaLab.Scalar

open Binary64

/-- Counts of up to fifty-three digits, and the next one, are held exactly. -/
theorem roundNat_ofNat {n : Nat} (held : n ≤ 2 ^ 53) : roundNat (ofNat n : Float) = n := by
  obtain rfl | positive := Nat.eq_zero_or_pos n
  · decide +kernel
  obtain short | rfl := Nat.lt_or_eq_of_le held
  · have digits : n.log2 ≤ 52 :=
      Nat.le_of_lt_succ ((Nat.log2_lt (Nat.ne_of_gt positive)).mpr short)
    obtain ⟨normal, less⟩ := shifted_bounds positive digits
    have fields := ofFloat_of_encodes (ofNat_encodes positive short) normal less (by omega)
    have exponent : ((1022 + n.log2 : Nat) : Int) - 1074 = -((52 - n.log2 : Nat) : Int) := by omega
    have small : n ≤ maxCount := by
      simp only [maxCount, pow2, Nat.pow_eq]
      omega
    change (ofFloat (Float.ofNat n)).roundNat = n
    rw [fields, exponent]
    exact roundNat_finite small
  · decide +kernel

/-- The count after these is rounded. -/
example : roundNat (ofNat (2 ^ 53 + 1) : Float) = 2 ^ 53 := by decide +kernel

end FormulaLab.Scalar
