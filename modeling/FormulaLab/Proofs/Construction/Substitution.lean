import FormulaLab.Proofs.Construction.Replacement
import FormulaLab.Scalar.Binary64

/-! Substitution and evaluation. To compose a formula into another one and to evaluate the result is to
evaluate the other one with its first variable bound to the value of the formula, or unbound where that
has none. Formulas bind no variables, so none of the variables of the formula is captured. -/

namespace FormulaLab

variable {α : Type}

/-- The bindings with one name bound to a value instead, or unbound. -/
def Environment.rebind (env : Environment α) (name : String) (value : Option α) : Environment α :=
  fun other => if other = name then value else env other

@[simp] theorem Environment.rebind_self (env : Environment α) (name : String) (value : Option α) :
    env.rebind name value name = value := if_pos rfl

theorem Environment.rebind_of_ne {name other : String} (distinct : other ≠ name) (env : Environment α)
    (value : Option α) : env.rebind name value other = env other := if_neg distinct

namespace Formula

variable [Scalar α] {x : String} {f g r t : Formula α} {later : List (Option String)}

theorem evaluate_rebind_of_absent {env : Environment α} (absent : some x ∉ f.variableSymbols)
    (value : Option α) : f.evaluate (env.rebind x value) = f.evaluate env := by
  refine evaluate_agree fun name occurs => Environment.rebind_of_ne ?_ env value
  rintro rfl
  exact absent occurs

/-- A formula with its first variable replaced has the value of the formula under the new binding. The
children before the path to the variable have no variable, and in those after it the name does not
occur. -/
theorem Replaces.evaluate (replaced : Replaces r t g) (first : t.variableSymbols = some x :: later)
    (once : some x ∉ later) (env : Environment α) :
    g.evaluate env = t.evaluate (env.rebind x (r.evaluate env)) := by
  induction replaced generalizing later with
  | @root id head children var =>
    rw [variableSymbols_node, if_pos var, List.singleton_append, List.cons.injEq] at first
    rw [evaluate_var (f := node id head children) var first.1, Environment.rebind_self, evaluate_filter]
  | @child id id' head before after part g plain closed inner ih =>
    obtain ⟨symbol, others, names⟩ := inner.exists_first
    rw [variableSymbols_below plain closed, names, List.cons_append, List.cons.injEq] at first
    obtain ⟨rfl, rfl⟩ := first
    simp only [List.mem_append, List.mem_flatMap, not_or, not_exists, not_and] at once
    have value := ih names once.1
    have early : ∀ f ∈ before, f.evaluate env = f.evaluate (env.rebind x (r.evaluate env)) := by
      intro f member
      refine (evaluate_rebind_of_absent ?_ _).symm
      rw [closed_iff.mp (closed f member)]
      exact List.not_mem_nil
    have late : ∀ f ∈ after, f.evaluate env = f.evaluate (env.rebind x (r.evaluate env)) := by
      intro f member
      exact (evaluate_rebind_of_absent (once.2 f member) _).symm
    refine evaluate_congr_of_plain plain ?_
    simp only [List.map_append, List.map_cons, value, List.map_congr_left early,
      List.map_congr_left late]

/-- Composition is substitution for the first variable. In any target where the name of that variable
occurs once, the result has the value of the target with the name bound to the value of the replacement,
or unbound where the replacement has none, whatever variables the replacement shares with the target. A
target without variables is the result itself. -/
theorem evaluate_compose (r t : Formula α) (n : Nat) :
    (t.variableSymbols = [] → (combine .compose r t n).1 = t) ∧
    ∀ (x : String) (later : List (Option String)), t.variableSymbols = some x :: later →
      some x ∉ later → ∀ env : Environment α,
        (combine .compose r t n).1.evaluate env = t.evaluate (env.rebind x (r.evaluate env)) := by
  constructor
  · intro closed
    exact compose_closed (closed_iff.mpr closed) n
  · intro x later first once env
    have opened : ¬t.Closed := by
      rw [closed_iff, first]
      exact List.cons_ne_nil _ _
    exact (compose_replaces opened n).evaluate first once env

/-- A difference of two variables into which a quotient of the same two variables is composed, and a
constant into which it is. -/
theorem evaluate_compose_quotient :
    let x : Formula Float := node "x" ⟨.var, none, some "x", none⟩ []
    let y : Formula Float := node "y" ⟨.var, none, some "y", none⟩ []
    let difference := node "-" ⟨.operator, none, some "-", none⟩ [x, y]
    let quotient := node "/" ⟨.operator, none, some "/", none⟩ [y, x]
    let seven : Formula Float := node "7" ⟨.constant, some 7, none, none⟩ []
    (difference.variableSymbols = [some "x", some "y"] ∧
      ∀ env, (combine .compose quotient difference 1).1.evaluate env =
        difference.evaluate (env.rebind "x" (quotient.evaluate env))) ∧
      seven.variableSymbols = [] ∧ (combine .compose quotient seven 1).1 = seven := by
  intro x y difference quotient seven
  have names : difference.variableSymbols = [some "x", some "y"] := by decide +kernel
  have closed : seven.variableSymbols = [] := by decide +kernel
  refine ⟨⟨names, ?_⟩, closed, (evaluate_compose quotient seven 1).1 closed⟩
  exact (evaluate_compose quotient difference 1).2 "x" [some "y"] names (by decide)

end Formula
end FormulaLab
