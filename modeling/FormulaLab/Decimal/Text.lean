import FormulaLab.Decimal.Shortest

/-! Texts of numbers. A number is written with the fewest digits that read back, either in full
positional form, or with a marked point and an exponent for very small and very large values, or
rounded to a fixed number of places. -/

namespace FormulaLab

class NumberText (α : Type) where
  /-- Fewest digits, positional, no exponent and no point on whole numbers. -/
  plain : α → String
  /-- Fewest digits, always with a point or an exponent. -/
  pointed : α → String
  /-- A fixed number of places after the point. -/
  places : Nat → α → String

namespace Decimal

def digitText (n : Nat) : List Char := Nat.toDigits 10 n

def zeros (n : Nat) : List Char := List.replicate n '0'

/-- Digits of `digits * 10 ^ exponent` with the point in its place. -/
def positional (d : Decimal) : List Char :=
  let text := digitText d.digits
  if 0 ≤ d.exponent then text ++ zeros d.exponent.toNat
  else
    let below := (-d.exponent).toNat
    if text.length ≤ below then '0' :: '.' :: zeros (below - text.length) ++ text
    else text.take (text.length - below) ++ '.' :: text.drop (text.length - below)

/-- Positional form that keeps a point on whole numbers. -/
def positionalPointed (d : Decimal) : List Char :=
  if 0 ≤ d.exponent then d.positional ++ ['.', '0'] else d.positional

/-- One digit before the point, the others after it, then the exponent of ten. -/
def scientific (d : Decimal) : List Char :=
  let text := digitText d.digits
  let exponent := d.exponent + (text.length - 1 : Nat)
  let mantissa := match text with
    | first :: second :: rest => first :: '.' :: second :: rest
    | short => short
  let sign := if exponent < 0 then ['-'] else []
  mantissa ++ 'e' :: sign ++ digitText exponent.natAbs

def magnitude (d : Decimal) : Int := d.exponent + ((digitText d.digits).length - 1 : Nat)

/-- A half-open range of leading exponents that are written positionally. -/
structure Layout where
  lowest : Int
  limit : Int

/-- Positional inside the range, scientific outside, zero always positional. -/
def Layout.write (layout : Layout) (d : Decimal) : List Char :=
  if d.digits = 0 ∨ (layout.lowest ≤ d.magnitude ∧ d.magnitude < layout.limit) then
    d.positionalPointed
  else d.scientific

/-- Listings of records write `1e-5` and `1e16` but `0.0001`. -/
def listing : Layout := ⟨-4, 16⟩

/-- Documents write `1e-6` and `1e16` but `0.00001`. -/
def document : Layout := ⟨-5, 16⟩

/-- The quotient rounded to the nearest whole number, a half to the even neighbour. -/
def roundHalfEven (numerator denominator : Nat) : Nat :=
  let whole := numerator / denominator
  let twice := 2 * (numerator % denominator)
  if twice < denominator then whole
  else if denominator < twice then whole + 1
  else whole + whole % 2

/-- A magnitude rounded to `places` digits after the point. -/
def rounded (places significand : Nat) (exponent : Int) : Decimal :=
  ⟨roundHalfEven (significand * pow2 exponent.toNat * pow10 places) (pow2 (-exponent).toNat),
    -(places : Int)⟩

end Decimal

namespace Binary64

/-- Sign, then the text that `write` gives to the magnitude; the special values have names. -/
def withSign (write : (significand : Nat) → (exponent : Int) → List Char) : Binary64 → String
  | .notANumber => "NaN"
  | .infinite negative => if negative then "-inf" else "inf"
  | .finite negative significand exponent =>
    let text := write significand exponent
    String.ofList (if negative then '-' :: text else text)

end Binary64

instance : NumberText Float where
  plain x := (Binary64.ofFloat x).withSign fun m e => (Decimal.shortest m e).positional
  pointed x := (Binary64.ofFloat x).withSign fun m e =>
    Decimal.listing.write (Decimal.shortest m e)
  places n x := (Binary64.ofFloat x).withSign fun m e => (Decimal.rounded n m e).positional

end FormulaLab
