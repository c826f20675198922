import Mathlib
import FormulaLab.Proofs.Scalar.Exact

/-! Unrounded arithmetic: the real numbers beside the infinities and what is not a number, which arise,
compare and vanish as in binary64. There is one zero only, a positive one, and nothing overflows. -/

namespace FormulaLab

/-- What a computation without rounding may come to. -/
inductive Unrounded where
  | notANumber
  | infinite (negative : Bool)
  | finite (x : ℝ)

namespace Unrounded

/-- A function of real numbers, with its values at the two infinities. -/
def extend (f : ℝ → Unrounded) (low high : Unrounded) : Unrounded → Unrounded
  | notANumber => notANumber
  | infinite true => low
  | infinite false => high
  | finite x => f x

def add : Unrounded → Unrounded → Unrounded
  | finite x, finite y => finite (x + y)
  | finite _, infinite s | infinite s, finite _ => infinite s
  | infinite true, infinite true => infinite true
  | infinite false, infinite false => infinite false
  | _, _ => notANumber

def neg : Unrounded → Unrounded :=
  extend (fun x => finite (-x)) (infinite false) (infinite true)

open Classical in
/-- An infinity times a real number. -/
noncomputable def scale (negative : Bool) (x : ℝ) : Unrounded :=
  if x = 0 then notANumber else infinite (negative ^^ decide (x < 0))

noncomputable def mul : Unrounded → Unrounded → Unrounded
  | finite x, finite y => finite (x * y)
  | finite x, infinite s | infinite s, finite x => scale s x
  | infinite s, infinite t => infinite (s ^^ t)
  | _, _ => notANumber

open Classical in
noncomputable def inv : Unrounded → Unrounded :=
  extend (fun x => if x = 0 then infinite false else finite x⁻¹) (finite 0) (finite 0)

/-- Comparison, which fails on what is not a number. -/
def Le : Unrounded → Unrounded → Prop
  | finite x, finite y => x ≤ y
  | infinite true, finite _ | finite _, infinite false => True
  | infinite s, infinite t => t ≤ s
  | _, _ => False

/-- The total order has what is not a number at its upper end. -/
def TotalLe : Unrounded → Unrounded → Prop
  | _, notANumber => True
  | a, b => a.Le b

def isNaN : Unrounded → Bool
  | notANumber => true
  | _ => false

def isFinite : Unrounded → Bool
  | finite _ => true
  | _ => false

def toCount (f : ℝ → Nat) : Unrounded → Nat
  | notANumber | infinite true => 0
  | infinite false => maxCount
  | finite x => min maxCount (f x)

noncomputable def abs : Unrounded → Unrounded :=
  extend (fun x => finite |x|) (infinite false) (infinite false)

open Classical in
noncomputable def sqrt : Unrounded → Unrounded :=
  extend (fun x => if x < 0 then notANumber else finite √x) notANumber (infinite false)

noncomputable def exp : Unrounded → Unrounded :=
  extend (fun x => finite (Real.exp x)) (finite 0) (infinite false)

open Classical in
noncomputable def ln : Unrounded → Unrounded :=
  extend (fun x => if x < 0 then notANumber else if x = 0 then infinite true else finite (Real.log x))
    notANumber (infinite false)

noncomputable def sin : Unrounded → Unrounded :=
  extend (fun x => finite (Real.sin x)) notANumber notANumber

noncomputable def cos : Unrounded → Unrounded :=
  extend (fun x => finite (Real.cos x)) notANumber notANumber

noncomputable def tanh : Unrounded → Unrounded :=
  extend (fun x => finite (Real.tanh x)) (finite (-1)) (finite 1)

open Classical in
/-- A power with a finite exponent. -/
noncomputable def powFinite (a : Unrounded) (y : ℝ) : Unrounded :=
  if y = 0 then finite 1
  else
    let odd := ∃ n : ℤ, y = 2 * n + 1
    let ofReal (x : ℝ) : Unrounded :=
      if x = 0 ∧ y < 0 then infinite false
      else if x < 0 ∧ ¬∃ n : ℤ, y = n then notANumber
      else finite (x ^ y)
    let ofInfinity (negative : Bool) : Unrounded :=
      if y < 0 then finite 0 else infinite (negative && decide odd)
    extend ofReal (ofInfinity true) (ofInfinity false) a

open Classical in
/-- A power with an infinite exponent. -/
noncomputable def powInfinite (a : Unrounded) (negative : Bool) : Unrounded :=
  let grown : Unrounded := if negative then finite 0 else infinite false
  let shrunk : Unrounded := if negative then infinite false else finite 0
  extend (fun x => if |x| = 1 then finite 1 else if |x| < 1 then shrunk else grown) grown grown a

open Classical in
noncomputable def pow : Unrounded → Unrounded → Unrounded
  | a, finite y => powFinite a y
  | a, infinite s => powInfinite a s
  | a, notANumber => if a = finite 1 then finite 1 else notANumber

open Classical in
noncomputable instance : Scalar Unrounded where
  add := add
  sub a b := add a (neg b)
  mul := mul
  div a b := mul a (inv b)
  neg := neg
  lt a b := a.Le b ∧ ¬b.Le a
  le := Le
  beq a b := decide (a.Le b ∧ b.Le a)
  ofScientific mantissa s exponent := finite (OfScientific.ofScientific mantissa s exponent)
  decidableLT _ _ := inferInstance
  decidableLE _ _ := inferInstance
  ofNat n := finite n
  abs := abs
  isNaN := isNaN
  isFinite := isFinite
  totalLe a b := decide (a.TotalLe b)
  floorNat := toCount Nat.floor
  roundNat := toCount fun x => ⌊x + 1 / 2⌋₊
  sqrt := sqrt
  exp := exp
  ln := ln
  sin := sin
  cos := cos
  tanh := tanh
  pow := pow

variable {a b : Unrounded} {x y : ℝ}

theorem lt_iff : a < b ↔ a ≤ b ∧ ¬b ≤ a := Iff.rfl

open Classical in
theorem beq_iff : (a == b) = true ↔ a ≤ b ∧ b ≤ a := decide_eq_true_iff

/-! Real numbers calculate as such. -/

theorem zero_eq : (0 : Unrounded) = finite 0 := congrArg finite Nat.cast_zero

theorem one_eq : (1 : Unrounded) = finite 1 := congrArg finite Nat.cast_one

theorem finite_le : finite x ≤ finite y ↔ x ≤ y := Iff.rfl

theorem finite_lt : finite x < finite y ↔ x < y := lt_iff_le_not_ge.symm

theorem finite_beq : (finite x == finite y) = true ↔ x = y := by
  rw [beq_iff, finite_le, finite_le, le_antisymm_iff]

theorem finite_add : finite x + finite y = finite (x + y) := rfl

theorem finite_mul : finite x * finite y = finite (x * y) := rfl

theorem finite_div (nonzero : y ≠ 0) : finite x / finite y = finite (x / y) := by
  have inverse : inv (finite y) = finite y⁻¹ := if_neg nonzero
  change mul (finite x) (inv (finite y)) = _
  rw [inverse, div_eq_mul_inv]
  rfl

theorem sum_finite (xs : List ℝ) : Scalar.sum (xs.map finite) = finite xs.sum := by
  have along (a : ℝ) : (xs.map finite).foldl (· + ·) (finite a) = finite (a + xs.sum) := by
    induction xs generalizing a with
    | nil => exact congrArg finite (add_zero a).symm
    | cons x xs ih =>
      rw [List.map_cons, List.foldl_cons, finite_add, ih, List.sum_cons, add_assoc]
  have start : (-0 : Unrounded) = finite 0 := by
    rw [zero_eq]
    exact congrArg finite neg_zero
  rw [Scalar.sum, start, along, zero_add]

/-- The real number, where there is one. -/
def value : Unrounded → ℝ
  | finite x => x
  | _ => 0

/-- Between real numbers there are real numbers only. -/
theorem eq_finite (above : finite x ≤ a) (below : a ≤ finite y) :
    a = finite a.value ∧ x ≤ a.value ∧ a.value ≤ y := by
  cases a with
  | notANumber => exact above.elim
  | infinite s =>
    cases s with
    | false => exact below.elim
    | true => exact above.elim
  | finite z => exact ⟨rfl, above, below⟩

/-- What is a number is cut off to a real one. -/
theorem clampUnit_finite (number : a.isNaN = false) :
    ∃ z, Scalar.clampUnit a = finite z ∧ 0 ≤ z ∧ z ≤ 1 := by
  simp only [Scalar.clampUnit, zero_eq, one_eq]
  cases a with
  | notANumber => contradiction
  | infinite negative =>
    cases negative with
    | true => exact ⟨0, if_pos ⟨trivial, id⟩, le_rfl, zero_le_one⟩
    | false => exact ⟨1, (if_neg And.left).trans (if_pos ⟨trivial, id⟩), zero_le_one, le_rfl⟩
  | finite x =>
    split
    · exact ⟨0, rfl, le_rfl, zero_le_one⟩
    next notBelow =>
      split
      · exact ⟨1, rfl, zero_le_one, le_rfl⟩
      next notAbove =>
        rw [finite_lt, not_lt] at notBelow notAbove
        exact ⟨x, rfl, notBelow, notAbove⟩

end Unrounded
end FormulaLab
