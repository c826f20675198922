import FormulaLab.Constant
import FormulaLab.Contraction
import FormulaLab.Dimension.Mapping
import FormulaLab.Document.Formula

/-! Constants, expansions, contractions and mappings as documents. -/

namespace FormulaLab

namespace Json

def ofFloats (xs : List Float) : Json := .arr (xs.map ofFloat)

end Json

def Constant.toJson (constant : Constant Float) : Json := .obj [
  ("id", .str constant.id),
  ("symbol", .str constant.symbol),
  ("value", .ofFloat constant.value),
  ("domain", .str constant.domain),
  ("expansion", .str constant.expansion),
  ("contraction", .str constant.contraction)]

def Expansion.toJson (expansion : Expansion Float) : Json := .obj [
  ("origin", .ofFloat expansion.origin),
  ("depth", .ofNat expansion.depth),
  ("expanded", .ofFloats expansion.terms),
  ("dual", expansion.companions.toJson)]

def Contraction.toJson (contraction : Contraction Float) : Json := .obj [
  ("values", .ofFloats contraction.values),
  ("contracted", .ofFloat contraction.contracted),
  ("loss_ratio", .ofFloat contraction.lossRatio)]

def Mapping.toJson (mapping : Mapping Float) : Json := .obj [
  ("source_dim", .ofNat mapping.source),
  ("target_dim", .ofNat mapping.target),
  ("kind", .str mapping.family.name),
  ("injective", .bool mapping.injective),
  ("surjective", .bool mapping.surjective),
  ("fixed_points", .arr (mapping.fixedPoints.map Json.ofFloats))]

end FormulaLab
