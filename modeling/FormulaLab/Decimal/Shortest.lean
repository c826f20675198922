import FormulaLab.Scalar.Binary64

/-! The shortest decimal that reads back to a binary64 magnitude.

A magnitude `significand * 2 ^ exponent` owns an interval of reals that round to it, ends included
exactly for an even significand. For one, two, three ... digits the search tries the two neighbours
of the value on that decimal grid; the first grid with a neighbour inside the interval gives the
answer, the nearer of two neighbours wins and the upper one takes a tie. All comparisons are between
whole numbers. -/

namespace FormulaLab

/-- The number `digits * 10 ^ exponent`. -/
structure Decimal where
  digits : Nat
  exponent : Int
  deriving Repr, DecidableEq

namespace Decimal

/-- Zeros at the end of the digits move into the exponent; `fuel` bounds their number. -/
def dropZeros : (fuel : Nat) → Decimal → Decimal
  | 0, d => d
  | fuel + 1, d =>
    if d.digits ≠ 0 ∧ d.digits % 10 = 0 then dropZeros fuel ⟨d.digits / 10, d.exponent + 1⟩ else d

/-- A positive magnitude with its rounding interval, all three as multiples of
`numerator / denominator`. -/
structure Target where
  low : Nat
  value : Nat
  high : Nat
  closed : Bool
  numerator : Nat
  denominator : Nat

/-- The interval of a positive binary64 magnitude, in quarters of its last bit. The lower half of the
interval is narrower at a power of two, except at the smallest exponent. -/
def Target.ofMagnitude (significand : Nat) (exponent : Int) : Target where
  low := if significand = pow2 52 ∧ exponent ≠ -1074 then 4 * significand - 1 else 4 * significand - 2
  value := 4 * significand
  high := 4 * significand + 2
  closed := significand % 2 == 0
  numerator := pow2 (exponent - 2).toNat
  denominator := pow2 (2 - exponent).toNat

/-- Position of the leading digit: the magnitude lies in `[10 ^ (p - 1), 10 ^ p)`. The estimate from
the binary exponent is off by at most one place. -/
def leadingPlace (significand : Nat) (exponent : Int) : Int :=
  let estimate := ((significand.log2 : Int) + exponent) * 30103 / 100000 + 1
  let reaches (p : Int) : Bool :=
    decide (pow10 p.toNat * pow2 (-exponent).toNat
      ≤ significand * pow2 exponent.toNat * pow10 (-p).toNat)
  if reaches estimate then estimate + 1
  else if reaches (estimate - 1) then estimate
  else estimate - 1

/-- Whether `point * 10 ^ place` lies in the interval. -/
def Target.contains (t : Target) (up down point : Nat) : Bool :=
  let scaled := point * up * t.denominator
  let low := t.low * t.numerator * down
  let high := t.high * t.numerator * down
  if t.closed then decide (low ≤ scaled ∧ scaled ≤ high) else decide (low < scaled ∧ scaled < high)

/-- The neighbour of the value on the grid of multiples of `10 ^ place` that reads back, if any. -/
def Target.nearest? (t : Target) (place : Int) : Option Nat :=
  let up := pow10 place.toNat
  let down := pow10 (-place).toNat
  let scaled := t.value * t.numerator * down
  let unit := up * t.denominator
  let below := scaled / unit
  let rest := scaled % unit
  let above := below + 1
  match decide (0 < below) && t.contains up down below, t.contains up down above with
  | true, true => some (if 2 * rest < unit then below else above)
  | true, false => some below
  | false, true => some above
  | false, false => none

/-- First grid with a hit, starting at `place` and refining by one digit at a time. -/
def Target.search (t : Target) : (fuel : Nat) → (place : Int) → Decimal
  | 0, place => ⟨(t.nearest? place).getD 0, place⟩
  | fuel + 1, place =>
    match t.nearest? place with
    | some point => ⟨point, place⟩
    | none => t.search fuel (place - 1)

/-- Shortest decimal of a magnitude; seventeen digits always suffice. -/
def shortest (significand : Nat) (exponent : Int) : Decimal :=
  if significand = 0 then ⟨0, 0⟩
  else
    let target := Target.ofMagnitude significand exponent
    dropZeros 400 (target.search 17 (leadingPlace significand exponent - 1))

end Decimal
end FormulaLab
