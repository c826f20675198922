import FormulaLab.Scalar.Basic

/-! Binary64 numbers read as a sign, a whole significand and a power of two. Everything that must
be exact (rounding to a count, the total order, decimal digits) is computed on these whole numbers. -/

namespace FormulaLab

/-- What a binary64 word stands for. A finite one has the magnitude `significand * 2 ^ exponent`. -/
inductive Binary64 where
  | notANumber
  | infinite (negative : Bool)
  | finite (negative : Bool) (significand : Nat) (exponent : Int)

namespace Binary64

/-- Fields of a word: sign, eleven exponent bits, fifty-two significand bits. -/
def ofWord (word : Nat) : Binary64 :=
  let negative := word / pow2 63 % 2 == 1
  let biased : Nat := word / pow2 52 % pow2 11
  let fraction := word % pow2 52
  if biased = pow2 11 - 1 then
    if fraction = 0 then .infinite negative else .notANumber
  else if biased = 0 then .finite negative fraction (-1074)
  else .finite negative (pow2 52 + fraction) ((biased : Int) - 1075)

def ofFloat (x : Float) : Binary64 := ofWord x.toBits.toNat

/-- Largest count not above the value, zero below zero and without a number. -/
def floorNat : Binary64 → Nat
  | .notANumber | .infinite true | .finite true _ _ => 0
  | .infinite false => maxCount
  | .finite false significand exponent =>
    if 0 ≤ exponent then min maxCount (significand * pow2 exponent.toNat)
    else significand / pow2 (-exponent).toNat

/-- Nearest count, a half going up. -/
def roundNat : Binary64 → Nat
  | .notANumber | .infinite true | .finite true _ _ => 0
  | .infinite false => maxCount
  | .finite false significand exponent =>
    if 0 ≤ exponent then min maxCount (significand * pow2 exponent.toNat)
    else
      let unit := pow2 (-exponent).toNat
      (2 * significand + unit) / (2 * unit)

/-- Position of a word in the total order: negative words run backwards below the positive ones. -/
def rank (word : Nat) : Int :=
  if word < pow2 63 then word else (pow2 63 : Int) - 1 - word

end Binary64

instance : Scalar Float where
  decidableLT := inferInstance
  decidableLE := inferInstance
  ofNat := Float.ofNat
  abs := Float.abs
  isNaN := Float.isNaN
  isFinite := Float.isFinite
  totalLe a b := decide (Binary64.rank a.toBits.toNat ≤ Binary64.rank b.toBits.toNat)
  floorNat x := (Binary64.ofFloat x).floorNat
  roundNat x := (Binary64.ofFloat x).roundNat
  sqrt := Float.sqrt
  exp := Float.exp
  ln := Float.log
  sin := Float.sin
  cos := Float.cos
  tanh := Float.tanh
  pow := Float.pow

end FormulaLab
