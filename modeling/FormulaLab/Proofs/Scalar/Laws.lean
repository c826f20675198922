import FormulaLab.Proofs.Scalar.Arithmetic
import FormulaLab.Proofs.Scalar.Order

/-! Binary64 arithmetic obeys the laws of order and addition. Every number has a place on a line of
whole numbers, its signed magnitude bits, and the laws are read off there. -/

namespace FormulaLab.Binary64

open Float.Model Float.Model.UnpackedFloat

/-- The magnitude bits are those of a number. -/
def IsNumber (x : Float) : Prop := magnitudeOf x.toBits.toBitVec ≤ infiniteWord

def place (x : Float) : Int := (signOf x.toBits.toBitVec).apply (magnitudeOf x.toBits.toBitVec)

variable {x y : Float} {u : UnpackedFloat} {s t : Sign} {w z : Nat}

theorem encodes_of_isNumber (number : IsNumber x) :
    Encodes x.toModel.unpack (signOf x.toBits.toBitVec) (magnitudeOf x.toBits.toBitVec) :=
  unpack_encodes number

theorem unpack_of_not_isNumber (other : ¬IsNumber x) : x.toModel.unpack = .notANumber :=
  unpack_eq_notANumber (Nat.lt_of_not_le other)

theorem place_of_encodes (encodes : Encodes x.toModel.unpack s w) :
    IsNumber x ∧ place x = s.apply w := by
  by_cases number : IsNumber x
  · obtain ⟨sign, magnitude⟩ := (encodes_of_isNumber number).unique encodes
    exact ⟨number, by rw [place, sign, magnitude]⟩
  · rw [unpack_of_not_isNumber number] at encodes
    contradiction

theorem compare_eq (numberX : IsNumber x) (numberY : IsNumber y) :
    x.toModel.unpack.compare y.toModel.unpack = some (compare (place x) (place y)) :=
  (encodes_of_isNumber numberX).compare_eq (encodes_of_isNumber numberY)

theorem compare_eq_none (other : ¬(IsNumber x ∧ IsNumber y)) :
    x.toModel.unpack.compare y.toModel.unpack = none := by
  by_cases number : IsNumber x
  · rw [unpack_of_not_isNumber fun also => other ⟨number, also⟩]
    cases x.toModel.unpack with
    | finite s => cases s <;> rfl
    | infinity s => cases s <;> rfl
    | zero => rfl
    | notANumber => rfl
  · rw [unpack_of_not_isNumber number]
    rfl

theorem compare_iff {p : Option Ordering → Bool} (unordered : p none = false) :
    p (x.toModel.unpack.compare y.toModel.unpack) = true ↔
      IsNumber x ∧ IsNumber y ∧ p (some (compare (place x) (place y))) = true := by
  by_cases numbers : IsNumber x ∧ IsNumber y
  · rw [compare_eq numbers.1 numbers.2]
    exact ⟨fun holds => ⟨numbers.1, numbers.2, holds⟩, fun ⟨_, _, holds⟩ => holds⟩
  · rw [compare_eq_none numbers, unordered]
    constructor
    · intro impossible
      contradiction
    · rintro ⟨numberX, numberY, _⟩
      exact absurd ⟨numberX, numberY⟩ numbers

theorem le_iff : x ≤ y ↔ IsNumber x ∧ IsNumber y ∧ place x ≤ place y := by
  change decide (x.toModel ≤ y.toModel) = true ↔ _
  rw [decide_eq_true_iff, ← Int.isLE_compare]
  exact compare_iff (p := fun order => order.any (·.isLE)) rfl

theorem lt_iff : x < y ↔ IsNumber x ∧ IsNumber y ∧ place x < place y := by
  change decide (x.toModel < y.toModel) = true ↔ _
  rw [decide_eq_true_iff, ← Int.compare_eq_lt, ← Option.some_inj, ← beq_iff_eq]
  exact compare_iff (p := fun order => order == some .lt) rfl

theorem isNumber_iff : IsNumber x ↔ x.toModel.unpack ≠ .notANumber := by
  constructor
  · intro number same
    have encodes := encodes_of_isNumber number
    rw [same] at encodes
    contradiction
  · intro number
    refine Classical.byContradiction fun other => ?_
    exact number (unpack_of_not_isNumber other)

theorem isFinite_iff : x.isFinite = true ↔ magnitudeOf x.toBits.toBitVec < infiniteWord := by
  change x.toModel.unpack.isFinite = true ↔ _
  by_cases number : IsNumber x
  · exact (encodes_of_isNumber number).isFinite_iff
  · rw [unpack_of_not_isNumber number]
    exact ⟨fun impossible => absurd impossible Bool.false_ne_true,
      fun finite => absurd (Nat.le_of_lt finite) number⟩

theorem isNumber_of_isFinite (finite : x.isFinite = true) : IsNumber x :=
  Nat.le_of_lt (isFinite_iff.mp finite)

theorem place_neg (number : IsNumber x) : IsNumber (-x) ∧ place (-x) = -place x := by
  obtain ⟨negated, same⟩ := @place_of_encodes (-x) _ _ (encodes_of_isNumber number).neg.unpack_pack
  refine ⟨negated, same.trans ?_⟩
  unfold place
  cases signOf x.toBits.toBitVec with
  | positive => rfl
  | negative => exact (Int.neg_neg _).symm

theorem IsNumber.of_map {f : UnpackedFloat → UnpackedFloat} (keeps : f .notANumber = .notANumber)
    (number : IsNumber (.ofModel (.pack (f x.toModel.unpack)))) : IsNumber x := by
  refine isNumber_iff.mpr fun same => isNumber_iff.mp number ?_
  change UnpackedFloat.unpack .binary64 (UnpackedFloat.pack .binary64 (f x.toModel.unpack)) = _
  rw [same, keeps]
  rfl

theorem isNumber_neg : IsNumber (-x) ↔ IsNumber x := by
  constructor
  · exact IsNumber.of_map rfl
  · intro number
    exact (place_neg number).1

theorem place_abs (number : IsNumber x) : IsNumber x.abs ∧ place x.abs = (place x).natAbs := by
  obtain ⟨absolute, same⟩ := @place_of_encodes x.abs _ _ (encodes_of_isNumber number).abs.unpack_pack
  refine ⟨absolute, same.trans ?_⟩
  unfold place
  cases signOf x.toBits.toBitVec with
  | positive => rfl
  | negative => simp only [Sign.apply, Int.natAbs_neg, Int.natAbs_natCast]

theorem isNumber_abs : IsNumber x.abs ↔ IsNumber x := by
  constructor
  · exact IsNumber.of_map rfl
  · intro number
    exact (place_abs number).1

theorem place_add (finiteX : x.isFinite = true) (finiteY : y.isFinite = true) :
    IsNumber (x + y) ∧
      place (x + y) = signed nearest (signed units (place x) + signed units (place y)) := by
  have encodesX := encodes_of_isNumber (isNumber_of_isFinite finiteX)
  have encodesY := encodes_of_isNumber (isNumber_of_isFinite finiteY)
  obtain ⟨r, z, encodes, sum⟩ :=
    add_encodes encodesX encodesY (isFinite_iff.mp finiteX) (isFinite_iff.mp finiteY)
  obtain ⟨number, same⟩ := @place_of_encodes (x + y) r z encodes
  rw [same, sum, place, place, signed_apply rfl, signed_apply rfl]
  exact ⟨number, rfl⟩

theorem place_of_rank (less : rank x.toBits.toNat ≤ rank y.toBits.toNat) : place x ≤ place y := by
  have sizeX : x.toBits.toBitVec.toNat < 2 ^ 64 := BitVec.isLt _
  have sizeY : y.toBits.toBitVec.toNat < 2 ^ 64 := BitVec.isLt _
  change rank x.toBits.toBitVec.toNat ≤ rank y.toBits.toBitVec.toNat at less
  have half : pow2 63 = 2 ^ 63 := rfl
  unfold rank at less
  rw [half] at less
  unfold place signOf magnitudeOf
  by_cases positiveX : x.toBits.toBitVec.toNat < 2 ^ 63 <;>
    by_cases positiveY : y.toBits.toBitVec.toNat < 2 ^ 63 <;>
      simp only [positiveX, positiveY, if_true, if_false, Sign.apply] at less ⊢ <;> omega

theorem natAbs_place (x : Float) : (place x).natAbs = magnitudeOf x.toBits.toBitVec := by
  unfold place
  cases signOf x.toBits.toBitVec with
  | positive => exact Int.natAbs_natCast _
  | negative => simp only [Sign.apply, Int.natAbs_neg, Int.natAbs_natCast]

/-- Numbers are finite by their magnitude alone. -/
theorem isFinite_congr (numbers : IsNumber y ↔ IsNumber x)
    (same : IsNumber x → (place y).natAbs = (place x).natAbs) : y.isFinite = x.isFinite := by
  have finite (z : Float) : z.isFinite = true ↔ (place z).natAbs < infiniteWord := by
    rw [isFinite_iff, natAbs_place]
  rw [Bool.eq_iff_iff]
  by_cases number : IsNumber x
  · rw [finite, finite, same number]
  · exact ⟨fun f => absurd (numbers.mp (isNumber_of_isFinite f)) number,
      fun f => absurd (isNumber_of_isFinite f) number⟩

theorem isFinite_neg : (-x).isFinite = x.isFinite :=
  isFinite_congr isNumber_neg fun number => by rw [(place_neg number).2, Int.natAbs_neg]

theorem isFinite_abs : x.abs.isFinite = x.isFinite :=
  isFinite_congr isNumber_abs fun number => by rw [(place_abs number).2, Int.natAbs_natCast]

end FormulaLab.Binary64

namespace FormulaLab.Scalar

open Binary64

instance : Ordered Float where
  le_trans a b c first second := by
    rw [le_iff] at first second ⊢
    exact ⟨first.1, second.2.1, Int.le_trans first.2.2 second.2.2⟩
  lt_iff a b := by
    rw [lt_iff, le_iff, le_iff]
    constructor
    · rintro ⟨numberA, numberB, less⟩
      exact ⟨⟨numberA, numberB, Int.le_of_lt less⟩, fun ⟨_, _, le⟩ => Int.not_le.mpr less le⟩
    · rintro ⟨⟨numberA, numberB, _⟩, notLe⟩
      exact ⟨numberA, numberB, Int.not_le.mp fun le => notLe ⟨numberB, numberA, le⟩⟩
  le_total a b finiteA finiteB := by
    have numberA := isNumber_of_isFinite finiteA
    have numberB := isNumber_of_isFinite finiteB
    rw [le_iff, le_iff]
    exact (Int.le_total (place a) (place b)).imp (fun le => ⟨numberA, numberB, le⟩)
      fun le => ⟨numberB, numberA, le⟩
  le_of_totalLe a b finiteA finiteB less := by
    have placed := place_of_rank (decide_eq_true_iff.mp less)
    exact le_iff.mpr ⟨isNumber_of_isFinite finiteA, isNumber_of_isFinite finiteB, placed⟩
  neg_le a b less := by
    rw [le_iff, isNumber_neg] at less ⊢
    obtain ⟨numberA, numberB, less⟩ := less
    rw [(place_neg numberA).2] at less
    rw [(place_neg numberB).2]
    exact ⟨numberB, numberA, Int.neg_le_of_neg_le less⟩
  abs_le a b := by
    change a.abs ≤ b ↔ _
    rw [le_iff, le_iff, le_iff, isNumber_abs, isNumber_neg]
    constructor
    · rintro ⟨numberA, numberB, less⟩
      rw [(place_abs numberA).2] at less
      rw [(place_neg numberB).2]
      exact ⟨⟨numberB, numberA, by omega⟩, numberA, numberB, by omega⟩
    · rintro ⟨⟨numberB, numberA, lower⟩, _, _, upper⟩
      rw [(place_neg numberB).2] at lower
      rw [(place_abs numberA).2]
      exact ⟨numberA, numberB, by omega⟩
  abs_lt a b := by
    change a.abs < b ↔ _
    rw [lt_iff, lt_iff, lt_iff, isNumber_abs, isNumber_neg]
    constructor
    · rintro ⟨numberA, numberB, less⟩
      rw [(place_abs numberA).2] at less
      rw [(place_neg numberB).2]
      exact ⟨⟨numberB, numberA, by omega⟩, numberA, numberB, by omega⟩
    · rintro ⟨⟨numberB, numberA, lower⟩, _, _, upper⟩
      rw [(place_neg numberB).2] at lower
      rw [(place_abs numberA).2]
      exact ⟨numberA, numberB, by omega⟩
  isFinite_neg _ := isFinite_neg
  isFinite_abs _ := isFinite_abs

instance : MonotoneAddition Float where
  add_comm a b := congrArg (fun u => Float.ofModel (.pack u)) (add_unpacked_comm _ _)
  add_le_add_right a b c finiteA finiteB finiteC less := by
    obtain ⟨numberAC, sumAC⟩ := place_add finiteA finiteC
    obtain ⟨numberBC, sumBC⟩ := place_add finiteB finiteC
    have exact : signed units (place a) ≤ signed units (place b) :=
      signed_mono (fun _ _ => units_mono) (le_iff.mp less).2.2
    have rounded := signed_mono (fun _ _ => nearest_mono)
      (Int.add_le_add_right exact (signed units (place c)))
    exact le_iff.mpr ⟨numberAC, numberBC, by rwa [sumAC, sumBC]⟩
  abs_add_neg_lt a bound finite positive := by
    have number := isNumber_of_isFinite finite
    obtain ⟨numberSum, sum⟩ := place_add finite (isFinite_neg.trans finite)
    rw [(place_neg number).2, signed_neg rfl, Int.add_right_neg] at sum
    obtain ⟨_, numberBound, less⟩ := lt_iff.mp positive
    refine lt_iff.mpr ⟨isNumber_abs.mpr numberSum, numberBound, ?_⟩
    change place (a + -a).abs < place bound
    rw [(place_abs numberSum).2, sum]
    exact less

end FormulaLab.Scalar
