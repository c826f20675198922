import FormulaLab.Proofs.Construction.Hereditary
import FormulaLab.Proofs.Rulebook.Outcome

/-! Hereditary properties in rewriting. Passes and reductions keep them if the replacements of the rules
do and nodes keep them over rewritten children; the standard rules do. -/

namespace FormulaLab

open Fresh (Yields)
open Formula (Throughout Hereditary)

variable {α : Type} {p : Nat → Formula α → Prop} {f : Formula α} {n : Nat}

/-- Nodes keep the property when they are rebuilt over as many children that have it throughout. -/
def Formula.Rebuildable (p : Nat → Formula α → Prop) : Prop :=
  ∀ ⦃n : Nat⦄ ⦃id : String⦄ ⦃head : Head α⦄ ⦃children children' : List (Formula α)⦄,
    p n (node id head children) → children'.length = children.length →
    (∀ child ∈ children', child.Throughout p n) → p (n + 1) (node (nodeId n) head children')

/-- The rule replaces nodes that have the property throughout by such formulas. -/
def Rule.Keeps (rule : Rule α) (p : Nat → Formula α → Prop) : Prop :=
  ∀ ⦃f : Formula α⦄ ⦃n : Nat⦄, f.Throughout p n → rule.pattern f = true →
    Yields (Throughout p) (rule.transform f) n

namespace Rulebook

variable {book : Rulebook α}

theorem tryRules_yields (keeps : ∀ rule ∈ book.rules, rule.Keeps p) (below : List String)
    (holds : f.Throughout p n) :
    Yields (fun m pass => pass.output.Throughout p m) (book.tryRules below f) n := by
  cases matched : book.firstMatch? f with
  | none =>
    simp only [tryRules, matched]
    exact .pure holds
  | some rule =>
    obtain ⟨registered, applies⟩ := firstMatch?_eq_some matched
    simp only [tryRules, matched]
    exact (keeps rule registered holds applies).bind fun g m _ replaced => .pure replaced

section Passes

variable (hereditary : Hereditary p) (rebuildable : Formula.Rebuildable p)
  (keeps : ∀ rule ∈ book.rules, rule.Keeps p)
include hereditary rebuildable keeps

theorem applyOnce_yields (holds : f.Throughout p n) :
    Yields (fun m pass => pass.output.Throughout p m) (book.applyOnce f) n := by
  induction f generalizing n with
  | node id head children ih =>
    obtain ⟨root, below⟩ := Formula.throughout_node.mp holds
    have swept := Yields.mapM (Q := fun m (pass : Pass α) => pass.output.Throughout p m)
      (fun onwards kept => hereditary.throughout onwards kept) fun child member m onwards =>
        ih child member (hereditary.throughout (n := m) onwards (below child member))
    rw [applyOnce_node]
    refine swept.bind fun passes m onwards results => ?_
    have outputs : ∀ child ∈ passes.map (·.output), child.Throughout p m := by
      rw [List.forall_mem_map]
      exact results.2
    split
    · refine Yields.bind (.pure (hereditary.throughout onwards holds)) ?_
      exact fun current k _ kept => tryRules_yields keeps _ kept
    · have made := rebuildable (hereditary.lasts onwards root)
        ((List.length_map _).trans results.1) outputs
      refine (hereditary.build_yields made outputs).bind ?_
      exact fun current k _ built => tryRules_yields keeps _ built

theorem iterate_yields [Scalar α] (bound done : Nat) (holds : f.Throughout p n) :
    Yields (fun m r => r.1.Throughout p m) (book.iterate bound done f) n := by
  induction bound generalizing done f n with
  | zero =>
    refine (applyOnce_yields hereditary rebuildable keeps holds).bind fun pass m onwards _ => ?_
    exact .pure (hereditary.throughout onwards holds)
  | succ bound ih =>
    refine (applyOnce_yields hereditary rebuildable keeps holds).bind fun pass m onwards kept => ?_
    split
    · exact .pure (hereditary.throughout onwards holds)
    · exact (ih (done + 1) kept).bind fun r k _ reached => .pure reached

theorem reduce_yields [Scalar α] (precision : α) (bound : Nat) (holds : f.Throughout p n) :
    Yields (fun m r => r.output.Throughout p m) (book.reduce precision bound f) n :=
  (iterate_yields hereditary rebuildable keeps bound 0 holds).bind fun _ _ _ reached => .pure reached

end Passes

/-! The standard rules make leaves, drop to a child, or build the golden ratio plus one. -/

section Standard

variable [Scalar α] (hereditary : Hereditary p)
include hereditary

theorem standard_keeps (precision : α) : ∀ rule ∈ (standard precision).rules, rule.Keeps p := by
  have leaf {head : Head α} {n : Nat} (plain : head.kind = .constant) (fits : head.Fits 0) :
      Yields (Throughout p) (Formula.build head []) n :=
    hereditary.leaf_yields (fun same => Kind.noConfusion (plain.symm.trans same)) fits
  have fold (name op : String) (combine : α → α → α) : (Rule.fold name op combine).Keeps p := by
    intro f n holds _
    simp only [Rule.fold]
    split
    · exact leaf rfl ⟨rfl, rfl⟩
    · exact .pure holds
  have identity (name op : String) (neutral : α) :
      (Rule.identity name op neutral precision).Keeps p := by
    intro f n holds applies
    obtain ⟨-, operand⟩ := Bool.and_eq_true_iff.mp applies
    obtain ⟨g, operand⟩ := Option.isSome_iff_exists.mp operand
    simp only [Rule.identity, operand]
    exact .pure (holds.child g (Rule.otherOperand?_mem operand))
  intro rule member
  rw [standard_rules] at member
  simp only [Rule.standard, List.mem_cons, List.not_mem_nil, or_false] at member
  rcases member with rfl | rfl | rfl | rfl | rfl | rfl
  · exact fold _ _ _
  · exact fold _ _ _
  · exact identity _ _ _
  · exact identity _ _ _
  · exact fun f n _ _ => leaf rfl ⟨rfl, rfl⟩
  · intro f n _ _
    refine (hereditary.labeledConstant_yields Scalar.golden "φ").bind fun golden m _ first => ?_
    refine Yields.bind (P := Throughout p) (leaf rfl ⟨rfl, rfl⟩) fun one k onwards second => ?_
    exact hereditary.binary_yields "+" (hereditary.throughout onwards first) second

end Standard

end Rulebook
end FormulaLab
