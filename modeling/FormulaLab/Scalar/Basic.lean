/-! Scalars: the numbers that sequences, vectors and formulas are made of. The class names the
operations and fixes no law. Binary64 arithmetic is one instance, an exact ordered field is another,
so an algorithm is written once and each statement about it names the laws that it needs. -/

namespace FormulaLab

def pow2 (n : Nat) : Nat := Nat.pow 2 n

def pow10 (n : Nat) : Nat := Nat.pow 10 n

/-- Largest count that fits a machine word. -/
def maxCount : Nat := pow2 64 - 1

/-- Numbers with arithmetic, comparison, the elementary functions and a total order. Comparisons
may all fail on an operand that is not a number; `totalLe` orders every value. -/
class Scalar (α : Type) extends
    Add α, Sub α, Mul α, Div α, Neg α, LT α, LE α, BEq α, OfScientific α where
  decidableLT : DecidableLT α
  decidableLE : DecidableLE α
  ofNat : Nat → α
  abs : α → α
  isNaN : α → Bool
  isFinite : α → Bool
  /-- A total order that refines `≤` and also places values that compare with nothing. -/
  totalLe : α → α → Bool
  /-- The greatest count not above the scalar, cut off at the ends of the range of counts. -/
  floorNat : α → Nat
  /-- The nearest count, a half going up, cut off at the ends of the range of counts. -/
  roundNat : α → Nat
  sqrt : α → α
  exp : α → α
  ln : α → α
  sin : α → α
  cos : α → α
  tanh : α → α
  pow : α → α → α

namespace Scalar

variable {α : Type} [Scalar α]

instance : DecidableLT α := Scalar.decidableLT

instance : DecidableLE α := Scalar.decidableLE

instance (priority := low) literal (n : Nat) : OfNat α n := ⟨Scalar.ofNat n⟩

def golden : α := 1.618033988749895

def halfTurn : α := 3.141592653589793

/-- A full turn, the divisor of the phase of added components. -/
def fullTurn : α := 2 * halfTurn

def naturalBase : α := 2.718281828459045

/-- The larger operand; an operand that is not a number loses. -/
def maximum (a b : α) : α :=
  if isNaN a then b else if isNaN b then a else if a < b then b else a

/-- The smaller operand; an operand that is not a number loses. -/
def minimum (a b : α) : α :=
  if isNaN a then b else if isNaN b then a else if b < a then b else a

/-- The value where it is above zero, otherwise zero. -/
def cutAtZero (x : α) : α := if 0 < x then x else 0

/-- Left-to-right sum from negative zero, the neutral element of rounded addition. -/
def sum (xs : List α) : α := xs.foldl (· + ·) (-0)

/-- Square-and-multiply loop over the binary digits of `n`, lowest first; `fuel` bounds their number. -/
def squareLoop : (fuel n : Nat) → (square result : α) → α
  | 0, _, _, result => result
  | fuel + 1, n, square, result =>
    let result := if n % 2 = 1 then result * square else result
    if n / 2 = 0 then result else squareLoop fuel (n / 2) (square * square) result

/-- Power with a counting exponent by repeated squaring. -/
def powNat (x : α) (n : Nat) : α := squareLoop (n + 1) n x 1

/-- The nearest value in the unit interval; a value that is not a number stays. -/
def clampUnit (x : α) : α := if x < 0 then 0 else if 1 < x then 1 else x

/-- One with the sign of a value that is below or above zero. -/
def signum (x : α) : α := if x < 0 then -1 else 1

def totalLt (a b : α) : Bool := !totalLe b a

end Scalar
end FormulaLab
