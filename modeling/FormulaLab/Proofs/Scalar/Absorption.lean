import FormulaLab.Proofs.Scalar.Exact
import FormulaLab.Proofs.Scalar.Laws

/-! Sums and products with an operand that is not a number. Binary64 arithmetic passes such an operand
on; among the real numbers there is none. -/

namespace FormulaLab.Scalar

/-- An operand that is not a number leaves a sum or a product that is not one either. -/
class Absorbing (α : Type) [Scalar α] : Prop where
  isNaN_add (a b : α) : isNaN a ∨ isNaN b → isNaN (a + b)
  isNaN_mul (a b : α) : isNaN a ∨ isNaN b → isNaN (a * b)

end FormulaLab.Scalar

namespace FormulaLab.Binary64

open Float.Model

variable {x y : Float}

theorem isNaN_iff : x.isNaN = true ↔ x.toModel.unpack = .notANumber := by
  change x.toModel.unpack.isNaN = true ↔ _
  cases x.toModel.unpack <;> simp [UnpackedFloat.isNaN]

/-- An operation on unpacked numbers passes an operand on that is not a number if it does so on
unpacked ones. -/
theorem isNaN_of_unpacked {f : UnpackedFloat → UnpackedFloat → UnpackedFloat}
    (left : ∀ v, f .notANumber v = .notANumber) (right : ∀ u, f u .notANumber = .notANumber)
    (either : x.isNaN = true ∨ y.isNaN = true) :
    (Float.ofModel (.pack (f x.toModel.unpack y.toModel.unpack))).isNaN = true := by
  have result : f x.toModel.unpack y.toModel.unpack = .notANumber := by
    obtain first | second := either
    · rw [isNaN_iff.mp first, left]
    · rw [isNaN_iff.mp second, right]
  rw [result]
  rfl

end FormulaLab.Binary64

namespace FormulaLab.Scalar

instance : Absorbing Float where
  isNaN_add _ _ :=
    Binary64.isNaN_of_unpacked (fun v => by cases v <;> rfl) fun u => by cases u <;> rfl
  isNaN_mul _ _ :=
    Binary64.isNaN_of_unpacked (fun v => by cases v <;> rfl) fun u => by cases u <;> rfl

instance : Absorbing ℝ where
  isNaN_add _ _ either := either.elim id id
  isNaN_mul _ _ either := either.elim id id

end FormulaLab.Scalar
