import FormulaLab.Consistency.Principles
import FormulaLab.Proofs.Construction.Calls
import FormulaLab.Proofs.Formula.Locality

/-! The principles depend on one another. A finite closed value is a value without any bindings, so it is
the value with all variables at zero too, whatever the formula looks like; and where variables are left
in a formula of complete nodes there is no closed value to be finite. -/

namespace FormulaLab.Formula

variable {α : Type} [Scalar α] {f : Formula α}

/-- The closed value is there and finite where finiteness is reported. -/
theorem exists_closedValue_of_finiteness (finite : f.principles.finiteness = true) :
    ∃ v, f.closedValue = some v ∧ Scalar.isFinite v = true := by
  have value : isFiniteValue f.closedValue = true := (Bool.and_eq_true_iff.mp finite).1
  exact (Option.any_eq_true _ _).mp value

/-- A closed value is the value under the bindings of all variables to zero. -/
theorem evaluate_zeroEnvironment {v : α} (closed : f.closedValue = some v) :
    f.evaluate f.zeroEnvironment = some v :=
  evaluate_stays f.zeroEnvironment.none_within v closed

theorem finiteness_of_var {g : Formula α} (wellFormed : f.WellFormed) (part : g ∈ f.nodes)
    (var : g.kind = .var) : f.principles.finiteness = false := by
  have opened : ¬f.Closed := fun closed => closed g part var
  have undefined := closedValue_of_not_closed wellFormed opened
  refine Bool.eq_false_iff.mpr fun finite => ?_
  obtain ⟨v, value, -⟩ := exists_closedValue_of_finiteness finite
  exact Option.some_ne_none v (value.symm.trans undefined)

/-- Finiteness is the strongest of the principles about values. In every formula, of whatever shape, it
brings zero invariance with it, and the value with all variables at zero is the closed one. A formula of
complete nodes, such as every one that calls make, fails it as soon as one node is a variable. -/
theorem finiteness_settles :
    (∀ f : Formula α, f.principles.finiteness = true →
      f.principles.zeroInvariance = true ∧
        ∃ v, f.closedValue = some v ∧ f.evaluate f.zeroEnvironment = some v) ∧
    (∀ f : Formula α, f.WellFormed → (∃ g ∈ f.nodes, g.kind = .var) →
      f.principles.finiteness = false) ∧
    ∀ (pool : List (Formula α)) (n : Nat), Built Call.Complete pool n → ∀ f ∈ pool,
      f.WellFormed ∧ ((∃ g ∈ f.nodes, g.kind = .var) → f.principles.finiteness = false) := by
  refine ⟨fun f finite => ?_, fun f wellFormed ⟨g, part, var⟩ => ?_, fun pool n built f member => ?_⟩
  · obtain ⟨v, closed, finiteValue⟩ := exists_closedValue_of_finiteness finite
    have atZero := evaluate_zeroEnvironment closed
    have invariant : f.principles.zeroInvariance = true := by
      change isFiniteValue (f.evaluate f.zeroEnvironment) = true
      rw [atZero]
      exact finiteValue
    exact ⟨invariant, v, closed, atZero⟩
  · exact finiteness_of_var wellFormed part var
  · have wellFormed := built.wellFormed (fun _ complete => complete) f member
    exact ⟨wellFormed, fun ⟨g, part, var⟩ => finiteness_of_var wellFormed part var⟩

/-- The root of four is finite and so invariant; an unknown times zero, built anew from a product with
four, is invariant only. -/
theorem finiteness_settles_root :
    let four : Formula Float := node (nodeId 1) ⟨.constant, some 4, none, none⟩ []
    let unknown := node (nodeId 2) ⟨.var, none, some "x", none⟩ []
    let zero := node (nodeId 3) ⟨.constant, some 0, none, none⟩ []
    let root := node (nodeId 4) ⟨.function, none, some "sqrt", none⟩ [four]
    let product := node (nodeId 5) ⟨.operator, none, some "*", none⟩ [four, unknown]
    let rebuilt := node (nodeId 6) ⟨.operator, none, some "*", none⟩ [zero, unknown]
    (root.principles.finiteness = true ∧ root.principles.zeroInvariance = true ∧
      ∃ v, root.closedValue = some v ∧ root.evaluate root.zeroEnvironment = some v) ∧
    (Built Call.Complete [rebuilt, product, root, zero, unknown, four] 7 ∧ rebuilt.WellFormed ∧
      rebuilt.principles.zeroInvariance = true ∧ rebuilt.principles.finiteness = false) ∧
    product.WellFormed ∧ product.principles.finiteness = false := by
  intro four unknown zero root product rebuilt
  have none_needed {pool : List (Formula Float)} : ∀ f ∈ ([] : List (Formula Float)), f ∈ pool :=
    fun _ member => absurd member List.not_mem_nil
  have leaves : Built Call.Complete [zero, unknown, four] 4 :=
    .call (.constant 0) (.call (.var "x") (.call (.constant 4) (.start 1) trivial none_needed)
      trivial none_needed) trivial none_needed
  have products : Built Call.Complete [product, root, zero, unknown, four] 6 :=
    .call (.binary "*" four unknown)
      (.call (.function "sqrt" four) leaves trivial (by simp [Call.operands])) trivial
      (by simp [Call.operands])
  have built : Built Call.Complete [rebuilt, product, root, zero, unknown, four] 7 :=
    .call (.rebuild product [zero, unknown]) products rfl (by simp [Call.operands])
  have finite : root.principles.finiteness = true := by decide +kernel
  have invariant : rebuilt.principles.zeroInvariance = true := by decide +kernel
  have opened {first : Formula Float} {id : String} {head : Head Float} :
      ∃ g ∈ (node id head [first, unknown]).nodes, g.kind = .var := ⟨unknown, by simp [unknown], rfl⟩
  have complete := finiteness_settles.2.2 _ _ built
  have productComplete := (complete product (by simp)).1
  have rebuiltComplete := complete rebuilt List.mem_cons_self
  exact ⟨⟨finite, finiteness_settles.1 root finite⟩,
    ⟨built, rebuiltComplete.1, invariant, rebuiltComplete.2 opened⟩,
    productComplete, finiteness_settles.2.1 product productComplete opened⟩

end FormulaLab.Formula
