import FormulaLab.Proofs.Formula.Nodes
import FormulaLab.Proofs.Formula.Values

/-! Arity. In a formula whose nodes have the children that their kind asks for, evaluation is strict: a
value of the whole needs a value of every part, so a formula with a variable has no closed value. -/

namespace FormulaLab

variable {α : Type}

/-- Whether a node of that head is complete with `arity` children. -/
def Head.Fits (h : Head α) (arity : Nat) : Prop :=
  match h.kind with
  | .constant => h.value.isSome ∧ arity = 0
  | .var => h.symbol.isSome ∧ arity = 0
  | .operator => arity = 1 ∨ arity = 2
  | .function => arity = 1
  | .dual => h.companions.isSome ∧ arity = 2

namespace Formula

def WellFormed (f : Formula α) : Prop := ∀ g ∈ f.nodes, g.head.Fits g.children.length

/-- A formula without variables. -/
def Closed (f : Formula α) : Prop := ∀ g ∈ f.nodes, g.kind ≠ .var

instance (f : Formula α) : Decidable f.Closed :=
  inferInstanceAs (Decidable (∀ g ∈ f.nodes, g.kind ≠ .var))

variable [Scalar α] {f : Formula α} {env : Environment α} {values : List (Option α)}

theorem isSome_of_combineValues (fits : f.head.Fits values.length)
    (defined : (combineValues env f values).isSome) : ∀ v ∈ values, v.isSome := by
  have kinds : f.head.kind = f.kind := rfl
  rw [Head.Fits, kinds] at fits
  cases kind : f.kind with
  | constant | var =>
    rw [kind] at fits
    rw [List.length_eq_zero_iff.mp fits.2]
    exact fun _ member => absurd member List.not_mem_nil
  | operator =>
    rw [combineValues_operator kind] at defined
    obtain ⟨v, value⟩ := Option.isSome_iff_exists.mp defined
    obtain ⟨op, -, known⟩ := Option.bind_eq_some_iff.mp value
    obtain ⟨meaning, -, applied⟩ := Option.bind_eq_some_iff.mp known
    obtain ⟨operands, all, -⟩ := Option.bind_eq_some_iff.mp applied
    exact forall_isSome_of_allDefined (Option.isSome_iff_exists.mpr ⟨operands, all⟩)
  | function =>
    rw [kind] at fits
    obtain ⟨argument, rfl⟩ := List.length_eq_one_iff.mp fits
    rw [List.forall_mem_singleton]
    unfold combineValues at defined
    rw [kind] at defined
    cases argument with
    | none => exact absurd defined Bool.false_ne_true
    | some x => rfl
  | dual =>
    rw [kind] at fits
    obtain ⟨positive, negative, rfl⟩ := List.length_eq_two.mp fits.2
    rw [List.forall_mem_cons, List.forall_mem_singleton]
    unfold combineValues at defined
    rw [kind] at defined
    cases positive with
    | none => exact absurd defined Bool.false_ne_true
    | some p =>
      cases negative with
      | none => exact absurd defined Bool.false_ne_true
      | some n => exact ⟨rfl, rfl⟩

/-- A complete node has a value only where all its children have one. -/
theorem child_isSome (fits : f.head.Fits f.children.length) (defined : (f.evaluate env).isSome) :
    ∀ child ∈ f.children, (child.evaluate env).isSome := by
  obtain ⟨v, value⟩ := Option.isSome_iff_exists.mp defined
  rw [evaluate_eq] at value
  obtain ⟨combined, -⟩ := Option.filter_eq_some_iff.mp value
  have all : ∀ v ∈ f.children.map (evaluate env), v.isSome :=
    isSome_of_combineValues (by rwa [List.length_map]) (Option.isSome_iff_exists.mpr ⟨v, combined⟩)
  exact fun child member => all _ (List.mem_map_of_mem member)

/-- Evaluation is strict. -/
theorem node_isSome (wellFormed : f.WellFormed) (defined : (f.evaluate env).isSome) :
    ∀ g ∈ f.nodes, (g.evaluate env).isSome := by
  induction f with
  | node id head children ih =>
    rw [WellFormed, forall_nodes_node] at wellFormed
    rw [forall_nodes_node]
    refine ⟨defined, fun child member => ?_⟩
    exact ih child member (wellFormed.2 child member) (child_isSome wellFormed.1 defined child member)

theorem closedValue_of_var (var : f.kind = .var) : f.closedValue = none := by
  rw [closedValue, evaluate_eq, evaluateNode]
  unfold combineValues
  rw [var]
  cases f.symbol <;> rfl

/-- With a variable left there is no closed value. -/
theorem closedValue_of_not_closed (wellFormed : f.WellFormed) (opened : ¬f.Closed) :
    f.closedValue = none := by
  rw [← Option.not_isSome_iff_eq_none]
  intro defined
  refine opened fun g member var => ?_
  have valued : (g.closedValue).isSome := node_isSome wellFormed defined g member
  rw [closedValue_of_var var] at valued
  exact Bool.false_ne_true valued

end Formula
end FormulaLab
