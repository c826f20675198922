import FormulaLab.Dimension.FixedPoint
import FormulaLab.Dimension.Resize

/-! Maps between two dimensions, with their structural properties and, where both dimensions agree,
their fixed points. -/

namespace FormulaLab

/-- Families of maps: nearest-index resampling, raising or block means, real spectrum. -/
inductive MappingFamily where
  | linear
  | spiral
  | fourier
  deriving DecidableEq, Repr

namespace MappingFamily

def name : MappingFamily → String
  | linear => "linear"
  | spiral => "dfumt"
  | fourier => "fourier"

def title : MappingFamily → String
  | linear => "Linear"
  | spiral => "Dfumt"
  | fourier => "Fourier"

def ofName? : String → Option MappingFamily
  | "linear" => some linear
  | "dfumt" => some spiral
  | "fourier" => some fourier
  | _ => none

variable {α : Type} [Scalar α]

/-- The vector map of a family into a target dimension. -/
def kernel (family : MappingFamily) (target : Nat) (vector : List α) : List α :=
  match family with
  | linear => Dimension.resample vector target
  | spiral =>
    if vector = [] then List.replicate target 0
    else if vector.length ≤ target then Dimension.raise vector target
    else Dimension.blockMeans vector target
  | fourier => Dimension.spectrum vector target

end MappingFamily

structure Mapping (α : Type) where
  source : Nat
  target : Nat
  family : MappingFamily
  injective : Bool
  surjective : Bool
  fixedPoints : List (List α)

namespace Mapping

variable {α : Type}

def apply [Scalar α] (mapping : Mapping α) (vector : List α) : List α :=
  mapping.family.kernel mapping.target vector

def create [Scalar α] (settings : NumericSettings α) (source target : Nat)
    (family : MappingFamily) : Mapping α where
  source
  target
  family
  injective := family != .fourier && decide (source ≤ target)
  surjective := family == .fourier || decide (target ≤ source)
  fixedPoints :=
    if source = target then
      FixedPoint.search settings.precision settings.fixedPointTolerance (family.kernel target)
        source settings.fixedPointIterations
    else []

/-- Listing of a mapping, its fixed points being counted. -/
def describe (mapping : Mapping α) : String :=
  s!"DimensionalMapping \x7b source_dim: {mapping.source}, target_dim: {mapping.target}, "
    ++ s!"kind: {mapping.family.title}, injective: {mapping.injective}, "
    ++ s!"surjective: {mapping.surjective}, fixed_points: {mapping.fixedPoints.length} \x7d"

end Mapping
end FormulaLab
