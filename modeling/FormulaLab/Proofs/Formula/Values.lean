import FormulaLab.Formula.Evaluate
import Mathlib.Data.Option.Basic

/-! Values of formulas node by node. The value of a node is fixed by its head and the values of its
children; its id does not matter. -/

namespace FormulaLab.Formula

variable {α : Type}

theorem forall_isSome_of_allDefined {values : List (Option α)}
    (defined : (allDefined values).isSome) : ∀ v ∈ values, v.isSome := by
  induction values with
  | nil => simp
  | cons first rest ih =>
    cases first with
    | none => simp [allDefined] at defined
    | some x =>
      rw [allDefined, Option.isSome_map] at defined
      exact List.forall_mem_cons.mpr ⟨rfl, ih defined⟩

variable [Scalar α] {env : Environment α} {f : Formula α} {values : List (Option α)}

theorem evaluate_eq (env : Environment α) (f : Formula α) :
    f.evaluate env = evaluateNode env f (f.children.map (evaluate env)) := by
  cases f with
  | node id head children => exact evaluate_node env id head children

theorem evaluateNode_node (id id' : String) (head : Head α) (children children' : List (Formula α)) :
    evaluateNode env (node id head children) values =
      evaluateNode env (node id' head children') values := rfl

/-- Nodes with the same head over children with the same values have the same value. -/
theorem evaluate_congr {id id' : String} {head : Head α} {children children' : List (Formula α)}
    (same : children.map (evaluate env) = children'.map (evaluate env)) :
    evaluate env (node id head children) = evaluate env (node id' head children') := by
  rw [evaluate_node, evaluate_node, same]
  exact evaluateNode_node ..

theorem combineValues_constant (constant : f.kind = .constant) :
    combineValues env f values = f.value := by
  unfold combineValues
  rw [constant]

theorem combineValues_operator (operator : f.kind = .operator) :
    combineValues env f values =
      f.symbol.bind fun op => (Operator.ofSymbol? op).bind fun meaning =>
        (allDefined values).bind meaning.apply := by
  unfold combineValues
  rw [operator]
  rfl

theorem evaluate_constant {x : α} (constant : f.kind = .constant) (value : f.value = some x) :
    f.evaluate env = if Scalar.isNaN x then none else some x := by
  rw [evaluate_eq, evaluateNode, combineValues_constant constant, value, Option.filter_some]
  cases Scalar.isNaN x <;> rfl

omit [Scalar α] in
theorem isOperator_iff {op : String} : f.isOperator op ↔ f.kind = .operator ∧ f.symbol = some op := by
  simp only [isOperator, Bool.and_eq_true, beq_iff_eq]

/-- The value of an operator is that of its meaning on the values of the operands. -/
theorem evaluate_operator {op : String} {meaning : Operator}
    (known : Operator.ofSymbol? op = some meaning) (named : f.isOperator op) :
    f.evaluate env =
      ((allDefined (f.children.map (evaluate env))).bind meaning.apply).filter
        (!Scalar.isNaN ·) := by
  obtain ⟨operator, symbol⟩ := isOperator_iff.mp named
  rw [evaluate_eq, evaluateNode, combineValues_operator operator, symbol, Option.bind_some, known,
    Option.bind_some]

/-- An operator has a value only where all its operands have one. -/
theorem operand_isSome {op : String} (named : f.isOperator op) (defined : (f.evaluate env).isSome)
    {g : Formula α} (operand : g ∈ f.children) : (g.evaluate env).isSome := by
  obtain ⟨operator, symbol⟩ := isOperator_iff.mp named
  obtain ⟨v, value⟩ := Option.isSome_iff_exists.mp defined
  rw [evaluate_eq, evaluateNode, combineValues_operator operator, symbol, Option.bind_some] at value
  obtain ⟨combined, -⟩ := Option.filter_eq_some_iff.mp value
  obtain ⟨meaning, -, applied⟩ := Option.bind_eq_some_iff.mp combined
  obtain ⟨xs, all, -⟩ := Option.bind_eq_some_iff.mp applied
  have each := forall_isSome_of_allDefined (Option.isSome_iff_exists.mpr ⟨xs, all⟩)
  exact each _ (List.mem_map_of_mem operand)

end FormulaLab.Formula
