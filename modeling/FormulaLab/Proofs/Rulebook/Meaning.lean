import FormulaLab.Proofs.Formula.Values
import FormulaLab.Proofs.Rulebook.Trace
import FormulaLab.Proofs.Scalar.Absorption
import FormulaLab.Rulebook.Standard

/-! Rules that keep values. A pass in which no other rule fires leaves the value of the formula as it
is, whatever the bindings. Folding of constants is such a rule, also where the folded constant is
infinite or no number at all. -/

namespace FormulaLab

open Scalar (Absorbing isNaN)

variable {α : Type} [Scalar α]

namespace Rule

/-- Every node to which the rule applies has the value of its replacement under all bindings. -/
def KeepsValue (rule : Rule α) : Prop :=
  ∀ f : Formula α, rule.pattern f = true → ∀ (env : Environment α) (n : Nat),
    (rule.transform f n).1.evaluate env = f.evaluate env

omit [Scalar α] in
theorem constantOperands?_eq_some {f : Formula α} {x y : α}
    (operands : constantOperands? f = some (x, y)) :
    ∃ a b, f.children = [a, b] ∧ a.kind = .constant ∧ b.kind = .constant ∧
      a.value = some x ∧ b.value = some y := by
  unfold constantOperands? at operands
  split at operands
  next a b children =>
    split at operands
    next kinds =>
      split at operands
      next v w first second =>
        cases operands
        exact ⟨a, b, children, kinds.1, kinds.2, first, second⟩
      · contradiction
    · contradiction
  · contradiction

/-- Folding keeps values if the folded constant is what the operator makes of the two operands, and is
no number unless both of them are. -/
theorem fold_keepsValue {name op : String} {combine : α → α → α} {meaning : Operator}
    (known : Operator.ofSymbol? op = some meaning)
    (combines : ∀ x y, meaning.apply [x, y] = some (combine x y))
    (absorbs : ∀ x y, isNaN x ∨ isNaN y → isNaN (combine x y)) :
    (fold name op combine).KeepsValue := by
  intro f applies env n
  obtain ⟨named, operands⟩ := Bool.and_eq_true_iff.mp applies
  obtain ⟨⟨x, y⟩, operands⟩ := Option.isSome_iff_exists.mp operands
  obtain ⟨a, b, children, constantA, constantB, valueA, valueB⟩ := constantOperands?_eq_some operands
  have folded : ((fold name op combine).transform f n).1.evaluate env =
      if isNaN (combine x y) then none else some (combine x y) := by
    simp only [fold, operands]
    exact Formula.evaluate_constant rfl rfl
  rw [folded, Formula.evaluate_operator known named, children, List.map_cons, List.map_cons,
    List.map_nil, Formula.evaluate_constant constantA valueA,
    Formula.evaluate_constant constantB valueB]
  -- An operand that is no number is undefined before the fold and spoils the constant after it.
  by_cases either : isNaN x ∨ isNaN y
  · rw [if_pos (absorbs x y either)]
    obtain first | second := either
    · simp [first, Formula.allDefined]
    · cases first : isNaN x <;> simp [second, Formula.allDefined]
  · obtain ⟨first, second⟩ := not_or.mp either
    have both : Formula.allDefined [some x, some y] = some [x, y] := rfl
    rw [if_neg first, if_neg second, both, Option.bind_some, combines, Option.filter_some]
    cases isNaN (combine x y) <;> rfl

/-- The rules that fold sums and products of constants. -/
def folding : List (Rule α) :=
  [fold "constant-fold-add" "+" (· + ·), fold "constant-fold-mul" "*" (· * ·)]

theorem folding_keepsValue [Absorbing α] : ∀ rule ∈ (folding : List (Rule α)), rule.KeepsValue := by
  intro rule member
  simp only [folding, List.mem_cons, List.not_mem_nil, or_false] at member
  rcases member with rfl | rfl
  · have plus : Operator.ofSymbol? "+" = some .plus := rfl
    exact fold_keepsValue plus (fun _ _ => rfl) Absorbing.isNaN_add
  · have times : Operator.ofSymbol? "*" = some .times := rfl
    exact fold_keepsValue times (fun _ _ => rfl) Absorbing.isNaN_mul

end Rule

namespace Rulebook

variable {book : Rulebook α} {env : Environment α}

/-- Only rules that keep values have fired in a pass. -/
def Exact (book : Rulebook α) (pass : Pass α) : Prop :=
  ∀ rule ∈ book.rules, rule.name ∈ pass.fired → rule.KeepsValue

/-- Passes that keep the values of the children keep the value of the node over their results. -/
theorem outputs_evaluate {children : List (Formula α)} {passes : List (Pass α)}
    (kept : List.Forall₂ (fun child pass => book.Exact pass →
      pass.output.evaluate env = child.evaluate env) children passes)
    (exact : ∀ pass ∈ passes, book.Exact pass) :
    (passes.map (·.output)).map (Formula.evaluate env) = children.map (Formula.evaluate env) := by
  induction kept with
  | nil => rfl
  | @cons _ _ _ _ first _ ih =>
    rw [List.forall_mem_cons] at exact
    rw [List.map_cons, List.map_cons, List.map_cons, first exact.1, ih exact.2]

theorem Exact.of_below {below : List String} {passes : List (Pass α)} {pass : Pass α}
    (exact : book.Exact pass) (fired : passes.flatMap (·.fired) = below)
    (within : ∀ name ∈ below, name ∈ pass.fired) : ∀ inner ∈ passes, book.Exact inner := by
  intro inner member rule registered name
  refine exact rule registered (within _ ?_)
  rw [← fired]
  exact List.mem_flatMap.mpr ⟨inner, member, name⟩

/-- A pass in which only rules fire that keep values keeps the value of the formula. -/
theorem applyOnce_evaluate (env : Environment α) (f : Formula α) (n : Nat) :
    book.Exact (book.applyOnce f n).1 →
      (book.applyOnce f n).1.output.evaluate env = f.evaluate env := by
  refine pass_induction
    (motive := fun f pass => book.Exact pass → pass.output.evaluate env = f.evaluate env) ?_ f n
  intro id current head children passes pass kept tried exact
  cases tried with
  | kept unmatched =>
    exact Formula.evaluate_congr (outputs_evaluate kept (exact.of_below rfl fun _ member => member))
  | replaced rule m matched =>
    obtain ⟨registered, applies⟩ := firstMatch?_eq_some matched
    have keeps := exact rule registered (List.mem_append_right _ List.mem_cons_self)
    have inner := exact.of_below rfl fun _ member => List.mem_append_left _ member
    exact (keeps _ applies env m).trans (Formula.evaluate_congr (outputs_evaluate kept inner))

omit [Scalar α] in
theorem advance_iterate_succ (s : Formula α × Nat) (k : Nat) :
    (book.advance^[k + 1] s).1 = (book.passAfter s k).output := by
  rw [Function.iterate_succ_apply']
  rfl

theorem advance_evaluate (keeps : ∀ rule ∈ book.rules, rule.KeepsValue) (env : Environment α)
    (s : Formula α × Nat) (k : Nat) : (book.advance^[k] s).1.evaluate env = s.1.evaluate env := by
  induction k with
  | zero => rfl
  | succ k ih =>
    rw [advance_iterate_succ, ← ih]
    exact applyOnce_evaluate env _ _ fun rule registered _ => keeps rule registered

/-- Folding of constants preserves meaning. By rules that fold sums and products, a pass and a
reduction under any bound leave every formula with its value under all bindings, or undefined if it
was. -/
theorem folding_preserves_meaning [Absorbing α] {book : Rulebook α}
    (folds : ∀ rule ∈ book.rules, rule ∈ Rule.folding) (f : Formula α) (env : Environment α)
    (n : Nat) :
    (book.applyOnce f n).1.output.evaluate env = f.evaluate env ∧
      ∀ (precision : α) (bound : Nat),
        (book.reduce precision bound f n).1.output.evaluate env = f.evaluate env := by
  have keeps : ∀ rule ∈ book.rules, rule.KeepsValue := fun rule registered =>
    Rule.folding_keepsValue rule (folds rule registered)
  refine ⟨applyOnce_evaluate env f n fun rule registered _ => keeps rule registered, ?_⟩
  intro precision bound
  have faithful := iterate_faithful book bound 0 (f, n)
  rw [reduce_eq precision bound (f, n)]
  dsimp only
  rw [faithful.reached]
  exact advance_evaluate keeps env (f, n) _

/-- The sum of two products that overflow to opposite infinities. -/
def infiniteDifference : Formula Float :=
  ((do
    let large ← Formula.binary "*" (← Formula.constant 1e200) (← Formula.constant 1e200)
    let small ← Formula.binary "*" (← Formula.constant (-1e200)) (← Formula.constant 1e200)
    Formula.binary "+" large small : Fresh (Formula Float)) 1).1

/-- All three nodes fold, the last one to a constant that is no number, and the sum is undefined before
and after. -/
theorem folding_preserves_meaning_infinite :
    let book := ofList (Rule.folding : List (Rule Float))
    let r := (book.reduce 1e-10 5 infiniteDifference 8).1
    (∀ rule ∈ book.rules, rule ∈ Rule.folding) ∧
      (book.applyOnce infiniteDifference 8).1.fired.length = 3 ∧
      r.output.value.any Scalar.isNaN ∧
      ∀ env, r.output.evaluate env = infiniteDifference.evaluate env := by
  have folds : ∀ rule ∈ (ofList (Rule.folding : List (Rule Float))).rules, rule ∈ Rule.folding :=
    fun _ member => member
  refine ⟨folds, by decide +kernel, by decide +kernel, fun env => ?_⟩
  exact (folding_preserves_meaning folds infiniteDifference env 8).2 1e-10 5

end Rulebook
end FormulaLab
