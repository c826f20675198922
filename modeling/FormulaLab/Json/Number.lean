import FormulaLab.Json.Basic
import FormulaLab.Json.Source
import FormulaLab.Scalar.Basic

/-! Values of written numbers. A number without point and exponent that fits a machine word stays
whole. Every other number becomes a binary64 value: the leading digits that fit an unsigned word are
gathered, the remaining ones only move the exponent, and one multiplication or division by a power
of ten follows. This is fast and may differ from the nearest value in the last bit. -/

namespace FormulaLab.Json

/-- A gathered significand and its power of ten. -/
structure Gathered where
  significand : Nat
  exponent : Int

/-- Digits before the point; from the first that does not fit, digits are only counted. -/
def gatherWhole : (digits : List Nat) → (significand : Nat) → Gathered
  | [], significand => ⟨significand, 0⟩
  | d :: rest, significand =>
    if significand * 10 + d ≤ maxCount then gatherWhole rest (significand * 10 + d)
    else ⟨significand, rest.length + 1⟩

/-- Digits after the point; from the first that does not fit, digits are ignored. -/
def gatherFraction : (digits : List Nat) → Gathered → Gathered
  | [], g => g
  | d :: rest, g =>
    if g.significand * 10 + d ≤ maxCount then
      gatherFraction rest ⟨g.significand * 10 + d, g.exponent - 1⟩
    else g

def digitsValue (digits : List Nat) : Nat := digits.foldl (fun n d => n * 10 + d) 0

def powerOfTen (n : Nat) : Float := OfScientific.ofScientific 1 false n

/-- Division by `10 ^ n`, in steps of the largest power that a binary64 value holds. A word is
divided down to zero by three such steps. -/
def scaleDown : (fuel : Nat) → (n : Nat) → Float → Float
  | 0, _, x => x
  | fuel + 1, n, x =>
    if n ≤ 308 then x / powerOfTen n
    else if x == 0.0 then x
    else scaleDown fuel (n - 308) (x / powerOfTen 308)

/-- Binary64 value of `significand * 10 ^ exponent`, absent when it is too large. -/
def scale? (g : Gathered) : Option Float :=
  let x := Float.ofNat g.significand
  if 0 ≤ g.exponent then
    if x == 0.0 then some x
    else if 308 < g.exponent then none
    else
      let scaled := x * powerOfTen g.exponent.toNat
      if scaled.isFinite then some scaled else none
  else some (scaleDown 4 (-g.exponent).toNat x)

namespace NumberSource

/-- Value of a number without point and exponent when it fits a machine word. -/
def whole? (number : NumberSource) : Option Int :=
  match number.fraction, number.exponent with
  | none, none =>
    let n := digitsValue number.whole
    if number.negative then
      if 0 < n ∧ n ≤ pow2 63 then some (-(n : Int)) else none
    else if n ≤ maxCount then some n
    else none
  | _, _ => none

/-- Binary64 value, absent when it is too large. -/
def float? (number : NumberSource) : Option Float := do
  let g := gatherWhole number.whole 0
  let g := gatherFraction (number.fraction.getD []) g
  let shift : Int := match number.exponent with
    | some (true, ds) => -(digitsValue ds : Int)
    | some (false, ds) => digitsValue ds
    | none => 0
  let x ← scale? ⟨g.significand, g.exponent + shift⟩
  some (if number.negative then -x else x)

def json? (number : NumberSource) : Option Json :=
  match number.whole? with
  | some n => some (.int n)
  | none => number.float?.map .float

end NumberSource
end FormulaLab.Json
