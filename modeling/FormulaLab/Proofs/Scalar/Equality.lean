import FormulaLab.Proofs.Scalar.Absorption

/-! Equality of scalars as numbers. Numbers that compare as equal are equal up to the sign of a zero, and
there is only one value that is not a number. -/

namespace FormulaLab.Scalar

/-- Comparison as numbers ignores the sign of a zero and nothing else. -/
class NumericEquality (α : Type) [Scalar α] : Prop where
  beq_self (a : α) : isNaN a = false → (a == a) = true
  eq_or_zero (a b : α) : (a == b) = true → a = b ∨ (a == 0) = true ∧ (b == 0) = true
  beq_of_zero (a b : α) : (a == 0) = true → (b == 0) = true → (a == b) = true
  abs_zero (a : α) : (a == 0) = true → abs a = abs 0
  eq_of_isNaN (a b : α) : isNaN a = true → isNaN b = true → a = b

end FormulaLab.Scalar

namespace FormulaLab.Binary64

open Float.Model Float.Model.UnpackedFloat

variable {x y : Float}

theorem eq_of_toNat_eq (same : x.toBits.toBitVec.toNat = y.toBits.toBitVec.toNat) : x = y := by
  obtain ⟨⟨⟨bits⟩, valid⟩⟩ := x
  obtain ⟨⟨⟨bits'⟩, valid'⟩⟩ := y
  obtain rfl : bits = bits' := BitVec.eq_of_toNat_eq same
  rfl

/-- A place other than that of zero is the place of one number. -/
theorem eq_of_place_eq (same : place x = place y) (other : place x ≠ 0) : x = y := by
  have sizeX : x.toBits.toBitVec.toNat < 2 ^ 64 := BitVec.isLt _
  have sizeY : y.toBits.toBitVec.toNat < 2 ^ 64 := BitVec.isLt _
  apply eq_of_toNat_eq
  unfold place signOf magnitudeOf at same other
  by_cases positiveX : x.toBits.toBitVec.toNat < 2 ^ 63 <;>
    by_cases positiveY : y.toBits.toBitVec.toNat < 2 ^ 63 <;>
      simp only [positiveX, positiveY, if_true, if_false, Sign.apply] at same other <;> omega

/-- The place of zero is that of its two signs. -/
theorem eq_zero_of_place_eq_zero (zero : place x = 0) : x = 0 ∨ x = -0 := by
  have size : x.toBits.toBitVec.toNat < 2 ^ 64 := BitVec.isLt _
  have positive : (0 : Float).toBits.toBitVec.toNat = 0 := by decide +kernel
  have negative : (-0 : Float).toBits.toBitVec.toNat = 2 ^ 63 := by decide +kernel
  unfold place signOf magnitudeOf at zero
  by_cases below : x.toBits.toBitVec.toNat < 2 ^ 63 <;>
    simp only [below, if_true, if_false, Sign.apply] at zero
  · exact .inl (eq_of_toNat_eq (by omega))
  · exact .inr (eq_of_toNat_eq (by omega))

theorem beq_iff : (x == y) = true ↔ IsNumber x ∧ IsNumber y ∧ place x = place y := by
  change (x.toModel.unpack.compare y.toModel.unpack == some .eq) = true ↔ _
  rw [compare_iff (p := fun order => order == some .eq) rfl, beq_iff_eq, Option.some_inj,
    Int.compare_eq_eq]

theorem isNumber_zero : IsNumber (0 : Float) := isNumber_of_isFinite (by decide +kernel)

theorem place_zero : place (0 : Float) = 0 := by decide +kernel

theorem beq_zero_iff : (x == (0 : Float)) = true ↔ IsNumber x ∧ place x = 0 := by
  rw [beq_iff, place_zero, and_iff_right isNumber_zero]

theorem isNumber_of_isNaN_eq_false (number : x.isNaN = false) : IsNumber x := by
  refine isNumber_iff.mpr fun same => ?_
  rw [isNaN_iff.mpr same] at number
  contradiction

/-- The format admits one word that is not a number. -/
theorem toBits_of_isNaN (other : x.isNaN = true) : x.toBits.toBitVec = packedNaN .binary64 := by
  have unpacked := isNaN_iff.mp other
  change UnpackedFloat.unpack .binary64 x.toBits.toBitVec = .notANumber at unpacked
  simp only [UnpackedFloat.unpack] at unpacked
  split at unpacked
  next largest =>
    split at unpacked
    · contradiction
    next fraction => exact x.toModel.valid.eq_packedNaN largest fraction
  next =>
    split at unpacked
    · split at unpacked <;> contradiction
    · contradiction

theorem unpack_of_place_eq_zero (number : IsNumber x) (zero : place x = 0) :
    ∃ s : Sign, x.toModel.unpack = .zero s := by
  have encodes := encodes_of_isNumber number
  rw [← natAbs_place, zero] at encodes
  generalize x.toModel.unpack = unpacked at encodes ⊢
  generalize same : Int.natAbs 0 = w at encodes
  cases encodes with
  | zero => exact ⟨_, rfl⟩
  | infinity => contradiction
  | finite =>
    simp only [Int.natAbs_zero] at same
    omega

theorem abs_of_place_eq_zero (number : IsNumber x) (zero : place x = 0) :
    x.abs = (0 : Float).abs := by
  obtain ⟨s, unpacked⟩ := unpack_of_place_eq_zero number zero
  change Float.ofModel (.pack x.toModel.unpack.abs) = _
  rw [unpacked]
  rfl

end FormulaLab.Binary64

namespace FormulaLab.Scalar

open Binary64

instance : NumericEquality Float where
  beq_self a number := by
    have number := isNumber_of_isNaN_eq_false number
    exact beq_iff.mpr ⟨number, number, rfl⟩
  eq_or_zero a b same := by
    obtain ⟨numberA, numberB, place⟩ := beq_iff.mp same
    by_cases zero : Binary64.place a = 0
    · exact .inr ⟨beq_zero_iff.mpr ⟨numberA, zero⟩, beq_zero_iff.mpr ⟨numberB, place ▸ zero⟩⟩
    · exact .inl (eq_of_place_eq place zero)
  beq_of_zero a b zeroA zeroB := by
    obtain ⟨numberA, placeA⟩ := beq_zero_iff.mp zeroA
    obtain ⟨numberB, placeB⟩ := beq_zero_iff.mp zeroB
    exact beq_iff.mpr ⟨numberA, numberB, placeA.trans placeB.symm⟩
  abs_zero a zero := by
    obtain ⟨number, place⟩ := beq_zero_iff.mp zero
    exact abs_of_place_eq_zero number place
  eq_of_isNaN a b otherA otherB := by
    apply eq_of_toNat_eq
    rw [toBits_of_isNaN otherA, toBits_of_isNaN otherB]

instance : NumericEquality ℝ where
  beq_self _ _ := decide_eq_true rfl
  eq_or_zero _ _ same := .inl (of_decide_eq_true same)
  beq_of_zero _ _ zeroA zeroB :=
    decide_eq_true ((of_decide_eq_true zeroA).trans (of_decide_eq_true zeroB).symm)
  abs_zero _ zero := congrArg _ (of_decide_eq_true zero)
  eq_of_isNaN _ _ impossible := absurd impossible Bool.false_ne_true

end FormulaLab.Scalar
