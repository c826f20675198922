import FormulaLab.Proofs.Formula.Correspondence
import FormulaLab.Proofs.Rulebook.Outcome

/-! Reductions of alike formulas. Rules that apply alike and replace alike reduce alike formulas in the
same steps to alike formulas; the standard rules are such. -/

namespace FormulaLab

open Fresh (Corresponds)
open Formula (build_same build_corresponds binary_corresponds)

variable {α : Type} {ids : String → String → Prop} {heads : Head α → Head α → Prop} {f g : Formula α}

/-- The same rules fired, with alike results. -/
structure Pass.Alike (ids : String → String → Prop) (heads : Head α → Head α → Prop)
    (x y : Pass α) : Prop where
  output : x.output.Alike ids heads y.output
  fired : x.fired = y.fired

/-- The same steps between alike formulas. -/
structure Reduction.Alike (ids : String → String → Prop) (heads : Head α → Head α → Prop)
    (x y : Reduction α) : Prop where
  input : x.input.Alike ids heads y.input
  output : x.output.Alike ids heads y.output
  steps : x.steps = y.steps
  converged : x.converged = y.converged
  analysis : x.analysis.Alike ids heads y.analysis

/-- The rule applies to alike formulas alike and gives alike replacements. -/
structure Rule.Respects (rule : Rule α) (ids : String → String → Prop)
    (heads : Head α → Head α → Prop) : Prop where
  pattern {f g : Formula α} : f.Alike ids heads g → rule.pattern f = rule.pattern g
  transform {f g : Formula α} : f.Alike ids heads g →
    Corresponds ids (Formula.Alike ids heads) (rule.transform f) (rule.transform g)

namespace Rulebook

def Respects (book : Rulebook α) (ids : String → String → Prop) (heads : Head α → Head α → Prop) :
    Prop :=
  ∀ rule ∈ book.rules, rule.Respects ids heads

variable {book : Rulebook α}

theorem Respects.firstMatch? (respects : book.Respects ids heads) (alike : f.Alike ids heads g) :
    book.firstMatch? f = book.firstMatch? g := by
  rw [Rulebook.firstMatch?, Rulebook.firstMatch?, ← List.head?_filter, ← List.head?_filter]
  congr 1
  exact List.filter_congr fun rule member => (respects rule member).pattern alike

theorem Respects.tryRules (respects : book.Respects ids heads) (below : List String)
    (alike : f.Alike ids heads g) :
    Corresponds ids (Pass.Alike ids heads) (book.tryRules below f) (book.tryRules below g) := by
  unfold Rulebook.tryRules
  rw [respects.firstMatch? alike]
  cases matched : book.firstMatch? g with
  | none => exact .pure ⟨alike, rfl⟩
  | some rule =>
    have member := (firstMatch?_eq_some matched).1
    refine ((respects rule member).transform alike).bind fun _ _ replaced => ?_
    exact .pure ⟨replaced, rfl⟩

theorem Respects.passNode (respects : book.Respects ids heads)
    {children children' : List (Fresh (Pass α))} (alike : f.Alike ids heads g)
    (below : List.Forall₂ (Corresponds ids (Pass.Alike ids heads)) children children') :
    Corresponds ids (Pass.Alike ids heads) (book.passNode f children) (book.passNode g children') := by
  refine (Corresponds.mapM (fun _ _ same => same) below).bind fun passes passes' same => ?_
  have fired : passes.flatMap (·.fired) = passes'.flatMap (·.fired) := by
    rw [List.flatMap_def, List.flatMap_def,
      map_eq_map_of_forall₂ (same.imp fun _ _ alike => alike.fired)]
  have outputs : List.Forall₂ (Formula.Alike ids heads)
      (passes.map (·.output)) (passes'.map (·.output)) := by
    rw [List.forall₂_map_left_iff, List.forall₂_map_right_iff]
    exact same.imp fun _ _ alike => alike.output
  rw [fired]
  dsimp only
  split
  · exact (Corresponds.pure alike).bind fun _ _ kept => respects.tryRules _ kept
  · cases alike with
    | node _ said _ =>
      refine (build_corresponds said outputs).bind fun _ _ built => ?_
      exact respects.tryRules _ built

theorem Respects.applyOnce (respects : book.Respects ids heads) (alike : f.Alike ids heads g) :
    Corresponds ids (Pass.Alike ids heads) (book.applyOnce f) (book.applyOnce g) :=
  alike.fold fun alike below => respects.passNode alike below

variable [Scalar α] [Head.Likeness heads]

theorem Respects.iterate (respects : book.Respects ids heads) (bound done : Nat)
    (alike : f.Alike ids heads g) :
    Corresponds ids (fun x y => x.1.Alike ids heads y.1 ∧ x.2 = y.2)
      (book.iterate bound done f) (book.iterate bound done g) := by
  induction bound generalizing done f g with
  | zero =>
    refine (respects.applyOnce alike).bind fun pass pass' same => ?_
    rw [same.fired]
    exact .pure ⟨alike, rfl⟩
  | succ bound ih =>
    refine (respects.applyOnce alike).bind fun pass pass' same => ?_
    rw [same.fired]
    split
    · exact .pure ⟨alike, rfl⟩
    · refine (ih (done + 1) same.output).bind fun after after' reached => ?_
      obtain ⟨output, steps, converged⟩ := after
      obtain ⟨output', steps', converged'⟩ := after'
      obtain ⟨last, same'⟩ := reached
      cases same'
      refine .pure ⟨last, ?_⟩
      rw [recordStep, recordStep, same.fired, same.output.closedValue, alike.closedValue]

/-- Alike formulas are reduced in the same steps to alike formulas. -/
theorem Respects.reduce (respects : book.Respects ids heads) (precision : α) (bound : Nat)
    (alike : f.Alike ids heads g) :
    Corresponds ids (Reduction.Alike ids heads) (book.reduce precision bound f)
      (book.reduce precision bound g) := by
  refine (respects.iterate bound 0 alike).bind fun x y reached => ?_
  obtain ⟨output, steps, converged⟩ := x
  obtain ⟨output', steps', converged'⟩ := y
  obtain ⟨last, same⟩ := reached
  cases same
  exact .pure ⟨alike, last, rfl, rfl, last.analyze precision⟩

end Rulebook

namespace Rule

variable [Scalar α] [Head.Likeness heads]

omit [Scalar α] in
theorem constantOperands?_alike (alike : f.Alike ids heads g) :
    constantOperands? f = constantOperands? g := by
  have below := alike.children
  unfold constantOperands?
  generalize f.children = children, g.children = children' at below
  rcases below with _ | ⟨first, _ | ⟨second, _ | _⟩⟩
  · rfl
  · rfl
  · simp only [first.kind, first.value, second.kind, second.value]
  · rfl

theorem otherOperand?_alike (neutral precision : α) (alike : f.Alike ids heads g) :
    Option.Rel (Formula.Alike ids heads) (otherOperand? neutral precision f)
      (otherOperand? neutral precision g) := by
  have below := alike.children
  unfold otherOperand?
  generalize f.children = children, g.children = children' at below
  rcases below with _ | ⟨first, _ | ⟨second, _ | _⟩⟩
  · exact .none
  · exact .none
  · simp only [first.isConstantNear, second.isConstantNear]
    split
    · exact .some second
    · split
      · exact .some first
      · exact .none
  · exact .none

omit [Scalar α] in
theorem fold_respects (name op : String) (combine : α → α → α) :
    (Rule.fold name op combine).Respects ids heads where
  pattern alike := by
    simp only [Rule.fold, alike.isOperator, constantOperands?_alike alike]
  transform {f g} alike := by
    simp only [Rule.fold, constantOperands?_alike alike]
    split
    · exact build_same _ .nil
    · exact .pure alike

theorem identity_respects (name op : String) (neutral precision : α) :
    (Rule.identity name op neutral precision).Respects ids heads where
  pattern {f g} alike := by
    have other := otherOperand?_alike neutral precision alike
    simp only [Rule.identity, alike.isOperator]
    generalize otherOperand? neutral precision f = x, otherOperand? neutral precision g = y at other
    cases other <;> rfl
  transform {f g} alike := by
    have other := otherOperand?_alike neutral precision alike
    simp only [Rule.identity]
    generalize otherOperand? neutral precision f = x, otherOperand? neutral precision g = y at other
    cases other with
    | none => exact .pure alike
    | some operand => exact .pure operand

theorem partsCancel_alike (precision : α) (alike : f.Alike ids heads g) :
    partsCancel precision f = partsCancel precision g := by
  have below := alike.children
  unfold partsCancel
  generalize f.children = children, g.children = children' at below
  rcases below with _ | ⟨first, _ | ⟨second, _ | _⟩⟩
  · rfl
  · rfl
  · simp only [first.closedValue, second.closedValue]
  · rfl

theorem dualCancel_respects (precision : α) : (dualCancel precision).Respects ids heads where
  pattern alike := by
    simp only [dualCancel, alike.kind, partsCancel_alike precision alike]
  transform _ := build_same _ .nil

theorem isGoldenSquare_alike (precision : α) (alike : f.Alike ids heads g) :
    isGoldenSquare precision f = isGoldenSquare precision g := by
  have below := alike.children
  unfold isGoldenSquare
  rw [alike.isOperator]
  generalize f.children = children, g.children = children' at below
  rcases below with _ | ⟨first, _ | ⟨second, _ | _⟩⟩
  · rfl
  · rfl
  · simp only [first.isConstantNear, second.isConstantNear]
  · rfl

theorem goldenSquare_respects (precision : α) : (goldenSquare precision).Respects ids heads where
  pattern alike := isGoldenSquare_alike precision alike
  transform _ := by
    have leaf (h : Head α) : Corresponds ids (Formula.Alike ids heads) (Formula.build h [])
        (Formula.build h []) := build_same h .nil
    refine (leaf _).bind fun _ _ golden => ?_
    refine (leaf _).bind fun _ _ one => ?_
    exact binary_corresponds "+" golden one

theorem standard_respects (precision : α) : ∀ rule ∈ standard precision, rule.Respects ids heads := by
  intro rule member
  simp only [standard, List.mem_cons, List.not_mem_nil, or_false] at member
  rcases member with rfl | rfl | rfl | rfl | rfl | rfl
  · exact fold_respects _ _ _
  · exact fold_respects _ _ _
  · exact identity_respects _ _ _ _
  · exact identity_respects _ _ _ _
  · exact dualCancel_respects precision
  · exact goldenSquare_respects precision

end Rule

theorem Rulebook.standard_respects [Scalar α] [Head.Likeness heads] (precision : α) :
    (Rulebook.standard precision).Respects ids heads := by
  intro rule member
  rw [standard_rules] at member
  exact Rule.standard_respects precision rule member

end FormulaLab
