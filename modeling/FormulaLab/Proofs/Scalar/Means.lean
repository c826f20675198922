import FormulaLab.Proofs.Scalar.Counts
import FormulaLab.Proofs.Scalar.Equality

/-! The mean of one value is the value itself, whatever it is: addition to negative zero and division
by one change nothing, not even the sign of a zero. -/

namespace FormulaLab.Scalar

class SingleMean (α : Type) [Scalar α] : Prop where
  mean_single (x : α) : sum [x] / ofNat 1 = x

end FormulaLab.Scalar

namespace FormulaLab.Binary64

open Float.Model Float.Model.UnpackedFloat

variable {x y : Float} {u : UnpackedFloat} {s : Sign} {w m k : Nat}

/-- Numbers with the same sign and magnitude bits are the same. -/
theorem eq_of_encodes (first : Encodes x.toModel.unpack s w) (second : Encodes y.toModel.unpack s w) :
    x = y := by
  obtain ⟨numberX, -⟩ := place_of_encodes first
  obtain ⟨numberY, -⟩ := place_of_encodes second
  obtain ⟨signX, magnitudeX⟩ := (encodes_of_isNumber numberX).unique first
  obtain ⟨signY, magnitudeY⟩ := (encodes_of_isNumber numberY).unique second
  have sizeX : x.toBits.toBitVec.toNat < 2 ^ 64 := BitVec.isLt _
  have sizeY : y.toBits.toBitVec.toNat < 2 ^ 64 := BitVec.isLt _
  have sign := signX.trans signY.symm
  have magnitude := magnitudeX.trans magnitudeY.symm
  apply eq_of_toNat_eq
  unfold signOf at sign
  unfold magnitudeOf at magnitude
  split at sign <;> split at sign <;> first | omega | contradiction

theorem Encodes.negative_zero_add (encodes : Encodes u s w) :
    UnpackedFloat.add .binary64 (.zero .negative) u = u := by
  cases encodes with
  | zero => cases s <;> rfl
  | finite => rfl
  | infinity => rfl

theorem negative_zero_add (x : Float) : -(Float.ofNat 0) + x = x := by
  by_cases number : IsNumber x
  · have encodes := encodes_of_isNumber number
    have sum := encodes.unpack_pack
    rw [← encodes.negative_zero_add] at sum
    exact eq_of_encodes (x := -(Float.ofNat 0) + x) sum encodes
  · have other := isNaN_iff.mpr (unpack_of_not_isNumber number)
    exact Scalar.NumericEquality.eq_of_isNaN _ _ (Scalar.Absorbing.isNaN_add _ x (.inr other)) other

/-- A quotient by one has the same significand, or twice it at the next smaller exponent. -/
theorem divCore_one (nonzero : 0 < m) (short : m < 2 ^ 53) (full : 2 ^ 52 ≤ m ∨ k = 0) :
    divCore .binary64 m ((k : Int) - 1074) (2 ^ 52) (-52) =
      (m * 2 ^ min k 1, ((k - min k 1 : Nat) : Int) - 1074, .exact) := by
  have digits : m.log2 ≤ 52 := Nat.le_of_lt_succ ((Nat.log2_lt (Nat.ne_of_gt nonzero)).mpr short)
  have leading : m.log2 = 52 ∨ k = 0 :=
    full.imp_left fun normal => (Nat.log2_eq_iff (Nat.ne_of_gt nonzero)).mpr ⟨normal, short⟩
  -- Above the least exponent the significand is full, and the quotient is taken one exponent lower.
  have target : min ((k : Int) - 1074 - -52) (Format.binary64.targetExponent
      (totalExponent m ((k : Int) - 1074) - totalExponent (2 ^ 52) (-52))) =
        ((k - min k 1 : Nat) : Int) - 1074 := by
    simp only [Format.targetExponent, totalExponent, Format.mantissaBits, Format.minExponent,
      Nat.log2_two_pow]
    omega
  have places : ((k : Int) - 1074 - -52 - (((k - min k 1 : Nat) : Int) - 1074)).toNat =
      min k 1 + 52 := by omega
  have quotient : m * 2 ^ (min k 1 + 52) = m * 2 ^ min k 1 * 2 ^ 52 := by
    rw [Nat.pow_add, Nat.mul_assoc]
  rw [divCore, target, places, Nat.shiftLeft_eq, quotient, Nat.mul_div_cancel _ (by decide), Nat.mul_mod_left]
  rfl

theorem Encodes.div_one (encodes : Encodes u s w) :
    Encodes (UnpackedFloat.unpack .binary64 (UnpackedFloat.pack .binary64
      (UnpackedFloat.div .binary64 u (.finite .positive (2 ^ 52) (-52) (by decide))))) s w := by
  have sign : s / .positive = s := by cases s <;> rfl
  cases encodes with
  | zero =>
    rw [UnpackedFloat.div, sign]
    exact (Encodes.zero s).unpack_pack
  | infinity =>
    rw [UnpackedFloat.div, sign]
    exact (Encodes.infinity s).unpack_pack
  | @finite _ m k nonzero short full bounded =>
    have whole : m * 2 ^ min k 1 * 2 ^ (k - min k 1) = m * 2 ^ k :=
      mul_two_pow_mul m (Nat.add_sub_of_le (Nat.min_le_left k 1))
    have late : k - min k 1 ≤ dropped (m * 2 ^ min k 1 * 2 ^ (k - min k 1)) := by
      rw [whole, dropped_mul_two_pow short full]
      exact Nat.sub_le _ _
    obtain ⟨n, j, some, rounded, shortN, fullN, word⟩ :=
      roundWithAccuracy_eq s (Nat.mul_pos nonzero (Nat.two_pow_pos (min k 1))) late
    rw [whole, nearestWord_exact short full] at word
    rw [UnpackedFloat.div, sign, divCore_one nonzero short full]
    dsimp only
    rw [rounded]
    have packed := unpack_pack_finite s some shortN fullN
    rwa [word, Nat.min_eq_left (by unfold infiniteWord; omega)] at packed

theorem div_one (x : Float) : x / Float.ofNat 1 = x := by
  by_cases number : IsNumber x
  · have encodes := encodes_of_isNumber number
    have one : (Float.ofNat 1).toModel.unpack = .finite .positive (2 ^ 52) (-52) (by decide) := rfl
    have quotient := encodes.div_one
    rw [← one] at quotient
    exact eq_of_encodes (x := x / Float.ofNat 1) quotient encodes
  · have other := unpack_of_not_isNumber number
    have quotient : (x / Float.ofNat 1).isNaN = true := isNaN_iff.mpr <| by
      change UnpackedFloat.unpack .binary64 (UnpackedFloat.pack .binary64
        (UnpackedFloat.div .binary64 x.toModel.unpack _)) = _
      rw [other]
      rfl
    exact Scalar.NumericEquality.eq_of_isNaN _ _ quotient (isNaN_iff.mpr other)

end FormulaLab.Binary64

namespace FormulaLab.Scalar

instance : SingleMean Float where
  mean_single x := by
    change (-(Float.ofNat 0) + x) / Float.ofNat 1 = x
    rw [Binary64.negative_zero_add, Binary64.div_one]

instance : SingleMean ℝ where
  mean_single x := by
    change sum [x] / ((1 : Nat) : ℝ) = x
    rw [sum_real, List.sum_singleton, Nat.cast_one, div_one]

end FormulaLab.Scalar
