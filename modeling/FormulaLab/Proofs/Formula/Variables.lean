import Mathlib.Data.List.ReduceOption
import FormulaLab.Proofs.Formula.Arity

/-! Variables of a formula. Evaluation looks up their names only, so bindings that agree on these names
give a formula the same value. -/

namespace FormulaLab.Formula

variable {α : Type} {id x : String} {head : Head α} {children : List (Formula α)} {f : Formula α}

/-- Names of the variables in preorder. A variable that was read from a document may have no name. -/
def variableSymbols (f : Formula α) : List (Option String) :=
  (f.nodes.filter (·.kind = .var)).map symbol

theorem variableSymbols_node (id : String) (head : Head α) (children : List (Formula α)) :
    (node id head children).variableSymbols =
      (if head.kind = .var then [head.symbol] else []) ++ children.flatMap variableSymbols := by
  have below : ((children.flatMap nodes).filter (·.kind = .var)).map symbol =
      children.flatMap variableSymbols := by
    rw [List.filter_flatMap, List.map_flatMap]
    rfl
  have kinds : (node id head children).kind = head.kind := rfl
  rw [variableSymbols, nodes_node, List.filter_cons]
  by_cases var : head.kind = .var
  · simp only [kinds, var, decide_true, if_true, List.map_cons, below, List.singleton_append]
    rfl
  · simp only [kinds, var, decide_false, Bool.false_eq_true, if_false, below, List.nil_append]

theorem closed_iff : f.Closed ↔ f.variableSymbols = [] := by
  simp only [Closed, variableSymbols, List.map_eq_nil_iff, List.filter_eq_nil_iff, decide_eq_true_eq,
    ne_eq]

theorem variableNames_node (id : String) (head : Head α) (children : List (Formula α)) :
    (node id head children).variableNames =
      (if head.kind = .var then head.symbol.toList else []) ++ children.flatMap variableNames := by
  rw [variableNames, fold_node, List.flatMap_def]
  rfl

/-- The names are those of the variables that have one. -/
theorem variableNames_eq (f : Formula α) : f.variableNames = f.variableSymbols.reduceOption := by
  induction f with
  | node id head children ih =>
    have below : children.flatMap variableNames =
        (children.flatMap variableSymbols).reduceOption := by
      rw [List.reduceOption, List.filterMap_flatMap]
      exact List.flatMap_congr ih
    rw [variableNames_node, variableSymbols_node, List.reduceOption_append, below]
    by_cases var : head.kind = .var
    · rw [if_pos var, if_pos var]
      cases head.symbol <;> rfl
    · rw [if_neg var, if_neg var, List.reduceOption_nil]

theorem mem_variableNames : x ∈ f.variableNames ↔ some x ∈ f.variableSymbols := by
  rw [variableNames_eq, List.reduceOption_mem_iff]

/-! Evaluation looks up the variables that occur. -/

variable [Scalar α] {env env' : Environment α}

theorem evaluateNode_agree (agree : f.kind = .var → ∀ name ∈ f.symbol, env name = env' name)
    (values : List (Option α)) : evaluateNode env f values = evaluateNode env' f values := by
  have combined : combineValues env f values = combineValues env' f values := by
    simp only [combineValues]
    cases kind : f.kind with
    | var =>
      cases symbol : f.symbol with
      | none => rfl
      | some name => exact agree kind name symbol
    | constant | operator | function | dual => rfl
  simp only [evaluateNode, combined]

/-- Nodes other than variables see the bindings through the values of their children only. -/
theorem evaluate_congr_of_plain {id' : String} {children' : List (Formula α)}
    (plain : head.kind ≠ .var) (same : children.map (evaluate env) = children'.map (evaluate env')) :
    evaluate env (node id head children) = evaluate env' (node id' head children') := by
  rw [evaluate_node, evaluate_node, same, evaluateNode_node id id' head children children']
  exact evaluateNode_agree (f := node id' head children') (fun var => absurd var plain) _

/-- Bindings that agree on the variables of a formula give it the same value. -/
theorem evaluate_agree (agree : ∀ name, some name ∈ f.variableSymbols → env name = env' name) :
    f.evaluate env = f.evaluate env' := by
  induction f with
  | node id head children ih =>
    simp only [variableSymbols_node, List.mem_append, List.mem_flatMap] at agree
    have values : children.map (evaluate env) = children.map (evaluate env') := by
      refine List.map_congr_left fun child member => ?_
      exact ih child member fun name occurs => agree name (.inr ⟨child, member, occurs⟩)
    rw [evaluate_node, evaluate_node, values]
    refine evaluateNode_agree (fun var name named => agree name (.inl ?_)) _
    change head.kind = .var at var
    change head.symbol = some name at named
    rw [if_pos var, named]
    exact List.mem_singleton_self _

/-- A value is a number already. -/
theorem evaluate_filter (env : Environment α) (f : Formula α) :
    (f.evaluate env).filter (!Scalar.isNaN ·) = f.evaluate env := by
  rw [evaluate_eq, evaluateNode, Option.filter_filter]
  simp only [Bool.and_self]

theorem evaluate_var (var : f.kind = .var) (named : f.symbol = some x) :
    f.evaluate env = (env x).filter (!Scalar.isNaN ·) := by
  simp only [evaluate_eq env f, evaluateNode, combineValues, var, named, Option.bind_some]

end FormulaLab.Formula
