import FormulaLab.Proofs.Scalar.Counts
import FormulaLab.Proofs.Scalar.Nonnegative

/-! Differences. Binary64 subtraction adds the opposite, so that zero takes nothing away, a difference
from a larger number is not above zero, and taking away more leaves no more. -/

namespace FormulaLab.Scalar

/-- Only zero is at no distance from zero. -/
class ZeroDistance (α : Type) [Scalar α] : Prop where
  beq_zero (a : α) : abs (a - 0) ≤ 0 → (a == 0) = true

/-- Adding what is not below zero lowers nothing, and taking away more leaves no more, where anything is
left. -/
class MonotoneDifference (α : Type) [Scalar α] : Prop where
  isFinite_zero : isFinite (0 : α)
  le_self (a : α) : 0 ≤ a → a ≤ a
  le_add (a b : α) : 0 ≤ a → 0 ≤ b → a ≤ a + b
  sub_le_sub (a b c : α) : 0 ≤ b → b ≤ c → 0 < a - c → a - c ≤ a - b

section MonotoneDifference

variable {α : Type} [Scalar α] [Ordered α] [MonotoneDifference α] {a b c : α}

theorem zero_le_zero : (0 : α) ≤ 0 := le_refl MonotoneDifference.isFinite_zero

theorem cutAtZero_nonneg (a : α) : 0 ≤ cutAtZero a := by
  unfold cutAtZero
  split
  next positive => exact le_of_lt positive
  next => exact zero_le_zero

theorem cutAtZero_sub_le (above : 0 ≤ b) (more : b ≤ c) : cutAtZero (a - c) ≤ cutAtZero (a - b) := by
  by_cases positive : 0 < a - c
  · have less := MonotoneDifference.sub_le_sub a b c above more positive
    rw [cutAtZero, if_pos positive, cutAtZero, if_pos (lt_of_lt_of_le positive less)]
    exact less
  · rw [cutAtZero, if_neg positive]
    exact cutAtZero_nonneg _

/-- Further summands that are not below zero lower no sum. -/
theorem sum_le_sum_append [NonnegativeSums α] {xs ys : List α} (above : ∀ x ∈ xs, 0 ≤ x)
    (also : ∀ y ∈ ys, 0 ≤ y) : sum xs ≤ sum (xs ++ ys) := by
  induction ys generalizing xs with
  | nil =>
    rw [List.append_nil]
    exact MonotoneDifference.le_self _ (sum_nonneg above)
  | cons y ys ih =>
    obtain ⟨first, rest⟩ := List.forall_mem_cons.mp also
    have extended : ∀ x ∈ xs ++ [y], 0 ≤ x :=
      List.forall_mem_append.mpr ⟨above, List.forall_mem_singleton.mpr first⟩
    have less : sum xs ≤ sum (xs ++ [y]) := by
      rw [sum, sum, List.foldl_concat]
      exact MonotoneDifference.le_add _ _ (sum_nonneg above) first
    rw [List.append_cons]
    exact Ordered.le_trans _ _ _ less (ih extended rest)

end MonotoneDifference

end FormulaLab.Scalar

namespace FormulaLab.Binary64

open Float.Model Float.Model.UnpackedFloat

variable {x y z : Float} {u v v' : UnpackedFloat} {s t : Sign} {w n : Nat}

theorem apply_neg (s : Sign) (n : Int) : (-s).apply n = -s.apply n := by
  cases s with
  | positive => rfl
  | negative => exact (Int.neg_neg n).symm

theorem sub_unpacked (u v : UnpackedFloat) :
    UnpackedFloat.sub .binary64 u v = UnpackedFloat.add .binary64 u v.neg := by
  cases u with
  | notANumber => cases v <;> rfl
  | infinity s =>
    cases v with
    | infinity t => cases s <;> cases t <;> rfl
    | _ => rfl
  | zero s =>
    cases v with
    | zero t => cases s <;> cases t <;> rfl
    | _ => rfl
  | finite s m e nonzero =>
    cases v with
    | finite t n f nonzero' =>
      simp only [UnpackedFloat.sub, UnpackedFloat.add, UnpackedFloat.neg, apply_neg]
      rfl
    | _ => rfl

theorem sub_zero_unpacked (u : UnpackedFloat) :
    UnpackedFloat.sub .binary64 u (.zero .positive) = u := by
  cases u with
  | zero s => cases s <;> rfl
  | _ => rfl

theorem place_sub_zero (number : IsNumber x) : IsNumber (x - 0) ∧ place (x - 0) = place x := by
  have encodes := (encodes_of_isNumber number).unpack_pack
  rw [← sub_zero_unpacked x.toModel.unpack] at encodes
  exact @place_of_encodes (x - 0) _ _ encodes

theorem isNumber_sub_zero : IsNumber (x - 0) ↔ IsNumber x := by
  constructor
  · exact IsNumber.of_map (f := fun u => UnpackedFloat.sub .binary64 u (.zero .positive)) rfl
  · intro number
    exact (place_sub_zero number).1

theorem place_sub (finiteX : x.isFinite = true) (finiteY : y.isFinite = true) :
    IsNumber (x - y) ∧
      place (x - y) = signed nearest (signed units (place x) - signed units (place y)) := by
  have encodesX := encodes_of_isNumber (isNumber_of_isFinite finiteX)
  have encodesY := (encodes_of_isNumber (isNumber_of_isFinite finiteY)).neg
  obtain ⟨r, z, encodes, sum⟩ :=
    add_encodes encodesX encodesY (isFinite_iff.mp finiteX) (isFinite_iff.mp finiteY)
  rw [← sub_unpacked] at encodes
  obtain ⟨number, same⟩ := @place_of_encodes (x - y) r z encodes
  rw [same, sum, place, place, signed_apply rfl, signed_apply rfl, apply_neg, Int.sub_eq_add_neg]
  exact ⟨number, rfl⟩

theorem Encodes.sub_infinity (encodes : Encodes u s w) (finite : w < infiniteWord) :
    UnpackedFloat.sub .binary64 u (.infinity .positive) = .infinity .negative := by
  cases encodes with
  | zero => rfl
  | finite => rfl
  | infinity => exact absurd finite (Nat.lt_irrefl _)

/-- An infinite number that is not below a finite one leaves minus infinity of it. -/
theorem place_sub_infinite (finite : x.isFinite = true) (numberY : IsNumber y)
    (infinite : ¬y.isFinite = true) (less : place x ≤ place y) : place (x - y) = -infiniteWord := by
  have small := isFinite_iff.mp finite
  have large := mt isFinite_iff.mpr infinite
  have encodesX := encodes_of_isNumber (isNumber_of_isFinite finite)
  have difference := encodesX.sub_infinity small
  rw [← natAbs_place] at small large
  have above : 0 ≤ place y := by omega
  have unpacked := (encodes_of_isNumber numberY).eq_infinity (natAbs_place y ▸ large) above
  have encodes := (Encodes.infinity .negative).unpack_pack
  rw [← difference, ← unpacked] at encodes
  exact (@place_of_encodes (x - y) _ _ encodes).2

/-- A finite number less one that is not below it leaves nothing above zero. -/
theorem sub_nonpos (finite : x.isFinite = true) (less : x ≤ y) : ¬0 < x - y := by
  rw [zero_lt_iff]
  rintro ⟨_, above⟩
  obtain ⟨_, numberY, lower⟩ := le_iff.mp less
  by_cases finiteY : y.isFinite = true
  · have exact : signed units (place x) ≤ signed units (place y) :=
      signed_mono (fun _ _ => units_mono) lower
    have rounded := signed_mono (fun _ _ => nearest_mono) (Int.sub_nonpos_of_le exact)
    have zero : signed nearest 0 = 0 := by
      rw [signed, if_pos (Int.le_refl 0)]
      exact congrArg Nat.cast nearest_zero
    rw [(place_sub finite finiteY).2] at above
    omega
  · rw [place_sub_infinite finite numberY finiteY lower] at above
    exact absurd above (by decide)

theorem place_le (number : IsNumber x) : place x ≤ infiniteWord := by
  have bound : (place x).natAbs ≤ infiniteWord := natAbs_place x ▸ number
  omega

/-- Rounding a finite number changes nothing. -/
theorem nearest_units_place (finite : x.isFinite = true) :
    signed nearest (signed units (place x)) = place x := by
  rw [place, signed_apply rfl, signed_apply nearest_zero, nearest_units (isFinite_iff.mp finite)]

/-- A sum stays infinite when what is not below zero is added. -/
theorem place_infinite_add (infinite : ¬x.isFinite = true) (above : 0 ≤ x) (also : 0 ≤ y) :
    place (x + y) = infiniteWord := by
  obtain ⟨numberX, placeX⟩ := zero_le_iff.mp above
  obtain ⟨numberY, placeY⟩ := zero_le_iff.mp also
  have unpacked := (encodes_of_isNumber numberX).eq_infinity (mt isFinite_iff.mpr infinite) placeX
  have sum := (encodes_of_isNumber numberY).infinity_add placeY
  have encodes := (Encodes.infinity .positive).unpack_pack
  rw [← sum, ← unpacked] at encodes
  exact (@place_of_encodes (x + y) _ _ encodes).2

theorem le_add_of_nonneg (above : 0 ≤ x) (also : 0 ≤ y) : x ≤ x + y := by
  obtain ⟨numberX, _⟩ := zero_le_iff.mp above
  obtain ⟨_, placeY⟩ := zero_le_iff.mp also
  obtain ⟨numberSum, _⟩ := zero_le_iff.mp (Scalar.NonnegativeSums.add_nonneg x y above also)
  refine le_iff.mpr ⟨numberX, numberSum, ?_⟩
  by_cases finiteX : x.isFinite = true
  · by_cases finiteY : y.isFinite = true
    · have exact : signed units (place x) ≤ signed units (place x) + signed units (place y) := by
        have added : 0 ≤ signed units (place y) := signed_nonneg placeY
        omega
      rw [(place_add finiteX finiteY).2]
      calc place x = signed nearest (signed units (place x)) := (nearest_units_place finiteX).symm
        _ ≤ _ := signed_mono (fun _ _ => nearest_mono) exact
    · rw [Scalar.MonotoneAddition.add_comm x y, place_infinite_add finiteY also above]
      exact place_le numberX
  · rw [place_infinite_add finiteX above also]
    exact place_le numberX

/-- Infinity taken away leaves nothing above zero. -/
theorem not_pos_sub_infinity (infinite : y.toModel.unpack = .infinity .positive) : ¬0 < x - y := by
  have nothing : ¬(0 : Float) < .ofModel (.pack (.infinity .negative)) := by decide +kernel
  change ¬0 < Float.ofModel (.pack (UnpackedFloat.sub .binary64 x.toModel.unpack y.toModel.unpack))
  rw [infinite]
  cases x.toModel.unpack with
  | notANumber => decide +kernel
  | infinity s => cases s <;> decide +kernel
  | zero => exact nothing
  | finite => exact nothing

theorem isFinite_of_le (finite : y.isFinite = true) (above : 0 ≤ x) (less : x ≤ y) :
    x.isFinite = true := by
  have small := isFinite_iff.mp finite
  have placeX := (zero_le_iff.mp above).2
  have lower := (le_iff.mp less).2.2
  rw [← natAbs_place] at small
  rw [isFinite_iff, ← natAbs_place]
  omega

/-- What is not finite does not notice what is taken from it. -/
theorem sub_eq_of_not_isFinite (infinite : ¬u.isFinite = true) (finite : v.isFinite = true)
    (finite' : v'.isFinite = true) :
    UnpackedFloat.sub .binary64 u v = UnpackedFloat.sub .binary64 u v' := by
  cases u with
  | notANumber => rfl
  | zero => exact absurd rfl infinite
  | finite => exact absurd rfl infinite
  | infinity =>
    cases v with
    | notANumber => contradiction
    | infinity => contradiction
    | _ =>
      cases v' with
      | notANumber => contradiction
      | infinity => contradiction
      | _ => rfl

theorem sub_le_sub_of_pos (above : 0 ≤ y) (more : y ≤ z) (left : 0 < x - z) : x - z ≤ x - y := by
  obtain ⟨_, numberZ, larger⟩ := le_iff.mp more
  obtain ⟨number, _⟩ := zero_lt_iff.mp left
  have placeZ := Int.le_trans (zero_le_iff.mp above).2 larger
  -- Infinity less infinity is not a number, so it matters that something is left.
  have finiteZ : z.isFinite = true := by
    refine Classical.byContradiction fun infinite => not_pos_sub_infinity ?_ left
    exact (encodes_of_isNumber numberZ).eq_infinity (mt isFinite_iff.mpr infinite) placeZ
  have finiteY := isFinite_of_le finiteZ above more
  by_cases finiteX : x.isFinite = true
  · obtain ⟨numberMore, less⟩ := place_sub finiteX finiteY
    refine le_iff.mpr ⟨number, numberMore, ?_⟩
    rw [less, (place_sub finiteX finiteZ).2]
    refine signed_mono (fun _ _ => nearest_mono) (Int.sub_le_sub_left ?_ _)
    exact signed_mono (fun _ _ => units_mono) larger
  · have same : x - z = x - y :=
      congrArg (fun u => Float.ofModel (.pack u)) (sub_eq_of_not_isFinite finiteX finiteZ finiteY)
    rw [← same]
    exact le_iff.mpr ⟨number, number, Int.le_refl _⟩

end FormulaLab.Binary64

namespace FormulaLab.Scalar

open Binary64

instance : ZeroDistance Float where
  beq_zero a near := by
    have near : (a - 0).abs ≤ 0 := near
    obtain ⟨numberAbs, _, small⟩ := le_iff.mp near
    have number := isNumber_sub_zero.mp (isNumber_abs.mp numberAbs)
    obtain ⟨difference, same⟩ := place_sub_zero number
    rw [(place_abs difference).2, same, place_zero] at small
    exact beq_zero_iff.mpr ⟨number, by omega⟩

instance : ZeroDistance ℝ where
  beq_zero a near := by
    have near : |a - ((0 : Nat) : ℝ)| ≤ ((0 : Nat) : ℝ) := near
    rw [Nat.cast_zero, sub_zero, abs_nonpos_iff] at near
    exact decide_eq_true (near.trans Nat.cast_zero.symm)

instance : MonotoneDifference Float where
  isFinite_zero := by decide +kernel
  le_self a above := by
    obtain ⟨number, _⟩ := zero_le_iff.mp above
    exact le_iff.mpr ⟨number, number, Int.le_refl _⟩
  le_add _ _ := le_add_of_nonneg
  sub_le_sub _ _ _ := sub_le_sub_of_pos

instance : MonotoneDifference ℝ where
  isFinite_zero := rfl
  le_self _ _ := le_refl rfl
  le_add a b _ also := by
    change ((0 : Nat) : ℝ) ≤ b at also
    rw [Nat.cast_zero] at also
    exact le_add_of_nonneg_right also
  sub_le_sub a b c _ more _ := sub_le_sub_left more a

end FormulaLab.Scalar
