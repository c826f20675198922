import FormulaLab.Scalar.Basic

/-! Search for fixed points of vector maps. From each of four constant vectors the search walks half
of the way to the image, again and again, until the step is small; it gives up on a result of another
dimension, on a step that is not finite, and when its budget is spent. -/

namespace FormulaLab.FixedPoint

variable {α : Type} [Scalar α]

def halfway (x image : List α) : List α := List.zipWith (fun a b => 0.5 * a + 0.5 * b) x image

def distance (x y : List α) : α := Scalar.sum (List.zipWith (fun a b => Scalar.abs (a - b)) x y)

/-- End of the walk from a point, absent if it does not settle. -/
def settle? (f : List α → List α) (dimension : Nat) (threshold : α) :
    (budget : Nat) → List α → Option (List α)
  | 0, _ => none
  | budget + 1, x =>
    let image := f x
    if image.length ≠ dimension then none
    else
      let next := halfway x image
      let change := distance next x
      if !Scalar.isFinite change then none
      else if change < threshold then some next
      else settle? f dimension threshold budget next

/-- Whether two points agree within the tolerance in every component. -/
def near (tolerance : α) (p x : List α) : Bool :=
  (List.zipWith (fun a b => decide (Scalar.abs (a - b) ≤ tolerance)) p x).all id

/-- A settled point is kept unless it is near one found before. -/
def keep (tolerance : α) (points : List (List α)) : Option (List α) → List (List α)
  | none => points
  | some x => if points.any (near tolerance · x) then points else points ++ [x]

/-- Components of the constant vectors from which the search starts. -/
def seeds : List α := [0, 1, Scalar.golden, -Scalar.golden]

/-- Fixed points found from the seeds, in their order. -/
def search (precision tolerance : α) (f : List α → List α) (dimension iterations : Nat) :
    List (List α) :=
  if dimension = 0 then []
  else
    let threshold := precision * Scalar.ofNat dimension
    seeds.foldl (fun points seed =>
      keep tolerance points
        (settle? f dimension threshold iterations (List.replicate dimension seed))) []

end FormulaLab.FixedPoint
