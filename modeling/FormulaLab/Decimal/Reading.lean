import FormulaLab.Scalar.Binary64

/-! Numbers in settings: whole numbers are digits with an optional plus sign, and a decimal is digits
with an optional sign, point and exponent, or one of the names of infinity and of the value that is
not a number. No blanks are allowed. A decimal is rounded to the nearest binary64 value. -/

namespace FormulaLab.Decimal

def digitValue? (c : Char) : Option Nat :=
  if '0' ≤ c ∧ c ≤ '9' then some (c.toNat - '0'.toNat) else none

/-- Value of a text of digits after those already read; every character must be a digit. -/
def readDigits? : (value : Nat) → List Char → Option Nat
  | value, [] => some value
  | value, c :: rest => (digitValue? c).bind fun d => readDigits? (value * 10 + d) rest

/-- Value of a text with at least one digit. -/
def readWhole? (text : List Char) : Option Nat := if text = [] then none else readDigits? 0 text

def readCount? (text : String) : Option Nat :=
  let digits := match text.toList with
    | '+' :: rest => rest
    | rest => rest
  (readWhole? digits).filter (· ≤ maxCount)

/-- The binary64 value nearest to `digits * 10 ^ exponent`. Values far outside the range of binary64
are settled by their size alone. -/
def nearest (digits : Nat) (exponent : Int) : Float :=
  if digits = 0 then 0.0
  else
    let size := (digits.log2 : Int) * 30103 / 100000 + exponent
    if 310 < size then 1.0 / 0.0
    else if size < -345 then 0.0
    else OfScientific.ofScientific digits (decide (exponent < 0)) exponent.natAbs

/-- Size from which on an exponent takes in no further digit. -/
def exponentReach : Nat := 0x10000

/-- Value of the digits of an exponent after those already read. Every character must be a digit, and
digits behind a value that has come to the reach are passed over. -/
def readExponentDigits? : (value : Nat) → List Char → Option Nat
  | value, [] => some value
  | value, c :: rest =>
    (digitValue? c).bind fun d =>
      readExponentDigits? (if value < exponentReach then value * 10 + d else value) rest

/-- Exponent of ten with an optional sign and at least one digit. -/
def readExponent? : List Char → Option Int
  | '-' :: rest => (size? rest).map fun n => -(n : Int)
  | '+' :: rest => (size? rest).map fun n => (n : Int)
  | rest => (size? rest).map fun n => (n : Int)
where
  size? (text : List Char) : Option Nat :=
    if text = [] then none else readExponentDigits? 0 text

/-- Digits that settle a rounding: a number midway between two neighbouring binary64 values has at
most 768 significant digits. -/
def settlingDigits : Nat := 768

/-- Value of a text with at least one digit, as a whole number times a power of ten. Digits behind
those that settle a rounding count as one more digit, which is zero when all of them are. -/
def readSignificand? (text : List Char) : Option (Nat × Nat) := do
  if text = [] then none
  else
    let digits := text.dropWhile (· == '0')
    let leading ← readDigits? 0 (digits.take settlingDigits)
    match digits.drop settlingDigits with
    | [] => some (leading, 0)
    | trailing =>
      if trailing.all fun c => (digitValue? c).isSome then
        let last := if trailing.all (· == '0') then 0 else 1
        some (leading * 10 + last, trailing.length - 1)
      else none

/-- A decimal without sign: digits, at most one point, at most one exponent. -/
def readMagnitude? (text : List Char) : Option Float := do
  let isExponentMark (c : Char) : Bool := c == 'e' || c == 'E'
  let mantissa := text.takeWhile (!isExponentMark ·)
  let exponent ← match text.dropWhile (!isExponentMark ·) with
    | [] => some 0
    | _ :: rest => readExponent? rest
  let whole := mantissa.takeWhile (· != '.')
  let fraction := (mantissa.dropWhile (· != '.')).drop 1
  let (digits, power) ← readSignificand? (whole ++ fraction)
  some (nearest digits (exponent - fraction.length + power))

/-- Names of the special values, in any case. -/
def readName? (text : List Char) : Option Float :=
  match String.ofList (text.map Char.toLower) with
  | "inf" | "infinity" => some (1.0 / 0.0)
  | "nan" => some (0.0 / 0.0)
  | _ => none

def readFloat? (text : String) : Option Float :=
  let (negative, rest) := match text.toList with
    | '-' :: rest => (true, rest)
    | '+' :: rest => (false, rest)
    | rest => (false, rest)
  ((readName? rest).or (readMagnitude? rest)).map fun x => if negative then -x else x

end FormulaLab.Decimal
