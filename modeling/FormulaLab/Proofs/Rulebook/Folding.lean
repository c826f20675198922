import FormulaLab.Proofs.Rulebook.Meaning
import FormulaLab.Proofs.Rulebook.Outcome

/-! Folding in one pass. In sums and products of numbers the standard rules fold every operator, each
after its operands, and stop. Neutral elements, which would change a value within the precision, never
come first. -/

namespace FormulaLab

open Scalar (Absorbing isNaN)

variable {α : Type}

namespace Formula

/-- A leaf that carries a number. -/
def IsNumber (f : Formula α) : Prop := f.children = [] ∧ f.kind = .constant ∧ f.value.isSome

/-- A sum or a product of two operands. -/
def IsOperation (f : Formula α) : Prop :=
  f.children.length = 2 ∧ (f.isOperator "+" ∨ f.isOperator "*")

/-- Built of numbers by sums and products of two operands. -/
def Arithmetic (f : Formula α) : Prop := ∀ g ∈ f.nodes, g.IsNumber ∨ g.IsOperation

instance (f : Formula α) : Decidable f.Arithmetic :=
  inferInstanceAs (Decidable (∀ g ∈ f.nodes, (g.children = [] ∧ g.kind = .constant ∧ g.value.isSome) ∨
    g.children.length = 2 ∧ (g.isOperator "+" ∨ g.isOperator "*")))

theorem IsOperation.kind {f : Formula α} (operation : f.IsOperation) : f.kind = .operator := by
  obtain ⟨-, sum | product⟩ := operation
  · exact (isOperator_iff.mp sum).1
  · exact (isOperator_iff.mp product).1

variable [Scalar α]

/-- The rule that folds the operator. -/
def foldingRule (f : Formula α) : Rule α :=
  if f.isOperator "+" then Rule.fold "constant-fold-add" "+" (· + ·)
  else Rule.fold "constant-fold-mul" "*" (· * ·)

/-- The operators, every one after those in its operands, by the rules that fold them. -/
def foldingRules (f : Formula α) : List (Rule α) :=
  (f.postorder.filter (·.kind = .operator)).map foldingRule

theorem foldingRule_mem (f : Formula α) : f.foldingRule ∈ Rule.folding := by
  unfold foldingRule
  split
  · exact List.mem_cons_self
  · exact List.mem_cons_of_mem _ List.mem_cons_self

theorem foldingRules_node (id : String) (head : Head α) (children : List (Formula α)) :
    (node id head children).foldingRules = children.flatMap foldingRules ++
      if head.kind = .operator then [(node id head children).foldingRule] else [] := by
  have below : ((children.flatMap postorder).filter (·.kind = .operator)).map foldingRule =
      children.flatMap foldingRules := by
    rw [List.filter_flatMap, List.map_flatMap]
    rfl
  have kinds : (node id head children).kind = head.kind := rfl
  rw [foldingRules, postorder_node, List.filter_append, List.map_append, below]
  by_cases operator : head.kind = .operator
  · simp only [kinds, operator, List.filter_cons, decide_true, if_true, List.filter_nil]
    rfl
  · simp only [kinds, operator, List.filter_cons, decide_false, Bool.false_eq_true, if_false,
      List.filter_nil, List.map_nil]

theorem foldingRules_length (f : Formula α) :
    f.foldingRules.length = f.nodes.countP (·.kind = .operator) := by
  rw [foldingRules, List.length_map, ← List.countP_eq_length_filter, f.postorder_perm.countP_eq]

end Formula

theorem Rule.constantOperands?_numbers {f a b : Formula α} (operands : f.children = [a, b])
    (first : a.IsNumber) (second : b.IsNumber) : ∃ x y, constantOperands? f = some (x, y) := by
  obtain ⟨-, constant, value⟩ := first
  obtain ⟨-, constant', value'⟩ := second
  obtain ⟨x, value⟩ := Option.isSome_iff_exists.mp value
  obtain ⟨y, value'⟩ := Option.isSome_iff_exists.mp value'
  refine ⟨x, y, ?_⟩
  rw [constantOperands?, operands]
  simp only [constant, constant', and_self, if_true, value, value']

namespace Rulebook

open Formula (IsNumber foldingRule)

variable [Scalar α] {precision : α} {f : Formula α}

/-- Over two numbers the folding rule of the operator comes first. -/
theorem standard_match_operation {x y : α} (operation : f.IsOperation)
    (operands : Rule.constantOperands? f = some (x, y)) :
    (standard precision).firstMatch? f = some f.foldingRule := by
  rw [firstMatch?, standard_rules, Rule.standard, List.find?_cons]
  by_cases sum : f.isOperator "+" = true
  · have applies : (Rule.fold "constant-fold-add" "+" (· + ·)).pattern f = true := by
      simp only [Rule.fold, sum, operands, Option.isSome_some, Bool.and_self]
    rw [applies, foldingRule, if_pos sum]
  · have product : f.isOperator "*" = true := operation.2.resolve_left sum
    have passes : (Rule.fold "constant-fold-add" "+" (· + ·)).pattern f = false := by
      simp only [Rule.fold, sum, Bool.false_and]
    have applies : (Rule.fold "constant-fold-mul" "*" (· * ·)).pattern f = true := by
      simp only [Rule.fold, product, operands, Option.isSome_some, Bool.and_self]
    rw [passes, List.find?_cons, applies, foldingRule, if_neg sum]

theorem foldingRule_transform {x y : α} (operands : Rule.constantOperands? f = some (x, y)) (n : Nat) :
    ∃ v, (f.foldingRule.transform f n).1 = .node (nodeId n) ⟨.constant, some v, none, none⟩ [] := by
  unfold foldingRule
  split
  · exact ⟨x + y, by simp only [Rule.fold, operands]; rfl⟩
  · exact ⟨x * y, by simp only [Rule.fold, operands]; rfl⟩

/-- What a pass leaves of sums and products of numbers: a number, a new one if anything was folded. -/
structure Folded (f : Formula α) (pass : Pass α) : Prop where
  fired : pass.fired = f.foldingRules.map (·.name)
  number : pass.output.IsNumber
  constant : pass.fired ≠ [] → ∃ id v, pass.output = .node id ⟨.constant, some v, none, none⟩ []

section Node

variable {id current : String} {head : Head α} {pass : Pass α}

theorem Folded.of_number (number : (Formula.node id head []).IsNumber)
    (tried : Tried (standard precision) [] (.node current head []) pass) :
    Folded (.node id head []) pass := by
  have other : head.kind ≠ .operator := fun operator =>
    Kind.noConfusion (number.2.1.symm.trans operator)
  have rules := Formula.foldingRules_node id head []
  rw [if_neg other] at rules
  have normal : (standard precision).Normal (.node current head []) := normal_leaf current head
  have unmatched := (normal_node.mp normal).1
  cases tried with
  | kept _ => exact ⟨by rw [rules]; rfl, number, fun loud => absurd rfl loud⟩
  | replaced rule m matched =>
    exact absurd (matched.symm.trans unmatched) (Option.some_ne_none rule)

theorem Folded.of_operation {a b : Formula α} {p q : Pass α}
    (operation : (Formula.node id head [a, b]).IsOperation) (left : Folded a p) (right : Folded b q)
    (tried : Tried (standard precision) ([p, q].flatMap (·.fired))
      (.node current head [p.output, q.output]) pass) : Folded (.node id head [a, b]) pass := by
  have operator : head.kind = .operator := operation.kind
  have rules := Formula.foldingRules_node id head [a, b]
  rw [if_pos operator] at rules
  obtain ⟨x, y, operands⟩ := Rule.constantOperands?_numbers
    (f := .node current head [p.output, q.output]) rfl left.number right.number
  have folds : (standard precision).firstMatch? (.node current head [p.output, q.output]) =
      some (foldingRule (.node id head [a, b])) := standard_match_operation ⟨rfl, operation.2⟩ operands
  cases tried with
  | kept unmatched => exact absurd (folds.symm.trans unmatched) (Option.some_ne_none _)
  | replaced rule m matched =>
    obtain rfl := Option.some.inj (folds.symm.trans matched)
    obtain ⟨v, folded⟩ := foldingRule_transform operands m
    change ((foldingRule (.node id head [a, b])).transform _ m).1 = _ at folded
    refine ⟨?_, ?_, fun _ => ⟨nodeId m, v, folded⟩⟩
    · simp [rules, left.fired, right.fired]
    · exact folded ▸ ⟨rfl, rfl, rfl⟩

end Node

theorem applyOnce_folded (arithmetic : f.Arithmetic) (n : Nat) :
    Folded f ((standard precision).applyOnce f n).1 := by
  revert arithmetic
  refine pass_induction (motive := fun f pass => f.Arithmetic → Folded f pass) ?_ f n
  intro id current head children passes pass related tried arithmetic
  obtain ⟨root, below⟩ := Formula.forall_nodes_node.mp arithmetic
  rcases root with number | operation
  · obtain rfl : children = [] := number.1
    cases related
    exact .of_number number tried
  · obtain ⟨a, b, rfl⟩ := List.length_eq_two.mp operation.1
    obtain _ | ⟨first, _ | ⟨second, _ | _⟩⟩ := related
    exact .of_operation operation (first (below a (by simp))) (second (below b (by simp))) tried

/-- The standard rules have distinct names. -/
theorem standard_names (precision : α) : ((Rule.standard precision).map (·.name)).Nodup := by
  change ["constant-fold-add", "constant-fold-mul", "identity-add-zero", "identity-mul-one",
    "dual-cancel", "golden-square"].Nodup
  decide

theorem folding_subset_standard (precision : α) :
    ∀ rule ∈ Rule.folding, rule ∈ Rule.standard precision := by
  intro rule member
  exact List.mem_append_left [_, _, _, _] member

/-- All that has fired is the folding of constants. -/
theorem Folded.exact [Absorbing α] {pass : Pass α} (folded : Folded f pass) :
    (standard precision).Exact pass := by
  intro rule member name
  rw [standard_rules] at member
  rw [folded.fired, List.mem_map] at name
  obtain ⟨folding, among, same⟩ := name
  obtain ⟨g, -, rfl⟩ := List.mem_map.mp among
  have registered := folding_subset_standard precision _ g.foldingRule_mem
  obtain rfl := List.inj_on_of_nodup_map (standard_names precision) registered member same
  exact Rule.folding_keepsValue _ g.foldingRule_mem

/-- Sums and products of numbers, with one operator or more, fold in a single pass at every precision. The
pass fires the folding rule of every operator and nothing else, each after those of its operands, and
leaves one constant that has the value of the formula, or none if the formula had none. A reduction of
one pass or more takes this pass and has converged. -/
theorem standard_folds_completely [Absorbing α] (precision : α) {k : Nat} (arithmetic : f.Arithmetic)
    (operators : f.nodes.countP (·.kind = .operator) = k) (some_operator : 1 ≤ k) (n : Nat) :
    let pass := ((standard precision).applyOnce f n).1
    (∃ id v, pass.output = .node id ⟨.constant, some v, none, none⟩ []) ∧
      pass.fired = f.foldingRules.map (·.name) ∧ pass.fired.length = k ∧
      pass.output.closedValue = f.closedValue ∧
      ∀ (accuracy : α) (bound : Nat), 1 ≤ bound →
        let r := ((standard precision).reduce accuracy bound f n).1
        r.output = pass.output ∧ r.steps = [recordStep 1 f pass] ∧ r.converged = true := by
  intro pass
  have folded : Folded f pass := applyOnce_folded arithmetic n
  have count : pass.fired.length = k := by
    rw [folded.fired, List.length_map, f.foldingRules_length, operators]
  have loud : pass.fired ≠ [] := List.ne_nil_of_length_pos (count ▸ some_operator)
  obtain ⟨id, v, output⟩ := folded.constant loud
  refine ⟨⟨id, v, output⟩, folded.fired, count, ?_, ?_⟩
  · exact applyOnce_evaluate _ f n folded.exact
  · intro accuracy bound enough
    obtain ⟨bound, rfl⟩ := Nat.exists_eq_add_of_le' enough
    have normal : (standard precision).Normal pass.output := output ▸ normal_leaf id _
    rw [reduce_eq accuracy (bound + 1) (f, n), iterate_loud (s := (f, n)) bound 0 loud,
      iterate_normal (s := (standard precision).advance (f, n)) normal bound 1]
    exact ⟨rfl, rfl, rfl⟩

/-- A sum that is within the precision of its first operand, times a product that overflows. -/
def nearlyNeutral : Formula Float :=
  ((do
    let sum ← Formula.binary "+" (← Formula.constant 1) (← Formula.constant 1e-12)
    let product ← Formula.binary "*" (← Formula.constant 1e200) (← Formula.labeledConstant 1e200 "x")
    Formula.binary "*" sum product : Fresh (Formula Float)) 1).1

/-- All three operators fold although the neutral element could be dropped in the sum and, after it, in
the product. -/
theorem standard_folds_completely_overflow :
    let pass := ((standard (1e-10 : Float)).applyOnce nearlyNeutral 8).1
    let r := ((standard (1e-10 : Float)).reduce 1e-10 5 nearlyNeutral 8).1
    nearlyNeutral.Arithmetic ∧ nearlyNeutral.nodes.countP (·.kind = .operator) = 3 ∧
      pass.fired = ["constant-fold-add", "constant-fold-mul", "constant-fold-mul"] ∧
      pass.output.closedValue = nearlyNeutral.closedValue ∧ r.output = pass.output ∧
      r.steps.length = 1 ∧ r.converged = true := by
  intro pass r
  have arithmetic : nearlyNeutral.Arithmetic := by decide +kernel
  have operators : nearlyNeutral.nodes.countP (·.kind = .operator) = 3 := by decide +kernel
  obtain ⟨-, fired, -, value, reductions⟩ :=
    standard_folds_completely 1e-10 arithmetic operators (by decide) 8
  obtain ⟨output, steps, converged⟩ := reductions 1e-10 5 (by decide)
  exact ⟨arithmetic, operators, fired, value, output, congrArg List.length steps, converged⟩

end Rulebook
end FormulaLab
