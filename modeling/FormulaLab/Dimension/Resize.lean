import FormulaLab.Expansion.Basic

/-! Vectors in another dimension: raised by rotated and scaled copies of their own components,
lowered by the means of consecutive blocks, resampled at the nearest index, or taken to the real
parts of their spectrum. -/

namespace FormulaLab.Dimension

variable {α : Type} [Scalar α]

/-- Component `i` added to a vector: a component from the vector, rotated by its index and scaled by
the golden ratio. -/
def addedComponent (vector : List α) (i : Nat) : α :=
  vector.getD (i % vector.length) 0
    * Scalar.cos (Scalar.ofNat i * Scalar.halfTurn / Scalar.fullTurn) * Scalar.golden

/-- The vector followed by added components up to the target dimension. -/
def raise (vector : List α) (target : Nat) : List α :=
  vector ++ (List.range (target - vector.length)).map fun j =>
    addedComponent vector (vector.length + j)

def blockStart (length target k : Nat) : Nat :=
  Scalar.floorNat (Scalar.ofNat k * (Scalar.ofNat length / Scalar.ofNat target : α))

/-- Index behind block `k`. A block has at least one component and the last one ends the vector. -/
def blockEnd (α : Type) [Scalar α] (length target k : Nat) : Nat :=
  if k + 1 = target then length
  else max (blockStart (α := α) length target (k + 1)) (blockStart (α := α) length target k + 1)

def block (vector : List α) (target k : Nat) : List α :=
  let start := blockStart (α := α) vector.length target k
  (vector.drop start).take (blockEnd α vector.length target k - start)

/-- Means of `target` consecutive blocks of equal, possibly fractional, size. -/
def blockMeans (vector : List α) (target : Nat) : List α :=
  (List.range target).map fun k =>
    let block := block vector target k
    Scalar.sum block / Scalar.ofNat block.length

/-- Components at evenly spaced indices; zeros for the empty vector. -/
def resample (vector : List α) (target : Nat) : List α :=
  if vector = [] then List.replicate target 0
  else (List.range target).map fun j => vector.getD (j * vector.length / target) 0

/-- Real parts of the mean-normalised discrete spectrum; zeros for the empty vector. -/
def spectrum (vector : List α) (target : Nat) : List α :=
  let length : α := Scalar.ofNat vector.length
  if vector = [] then List.replicate target 0
  else (List.range target).map fun k =>
    Scalar.sum (vector.zipIdx.map fun (x, t) =>
      x * Scalar.cos (Scalar.fullTurn * Scalar.ofNat (k * t) / length)) / length

/-- Raising is defined on non-empty vectors and never lowers the dimension. -/
def elevate (vector : List α) (target : Nat) : Except RangeError (List α) :=
  if target < vector.length then .error (.invalidDimension .elevate vector.length target)
  else if vector = [] then .error (.emptyVector .elevate)
  else .ok (raise vector target)

/-- Lowering keeps at least one and at most all components. -/
def reduce (vector : List α) (target : Nat) : Except RangeError (List α) :=
  if vector.length < target ∨ target = 0 then
    .error (.invalidDimension .reduce vector.length target)
  else .ok (blockMeans vector target)

end FormulaLab.Dimension
