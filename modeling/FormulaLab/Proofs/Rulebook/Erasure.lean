import FormulaLab.Proofs.Rulebook.Correspondence

/-! Names without meaning. Node ids and the labels of constants serve to tell nodes apart and to show
them; what is left of a formula without them decides its value, its measures, its reduction and the
principles that it meets. -/

namespace FormulaLab

variable {α : Type}

/-- The head without its label, if it is that of a constant. Elsewhere the symbol has a meaning. -/
def Head.bare (h : Head α) : Head α := if h.kind = .constant then { h with symbol := none } else h

theorem Head.alike_iff_bare {h k : Head α} : h.Alike k ↔ h.bare = k.bare := by
  obtain ⟨kind, value, symbol, companions⟩ := h
  obtain ⟨kind', value', symbol', companions'⟩ := k
  constructor
  · rintro ⟨rfl, rfl, rfl, meaning⟩
    by_cases constant : kind = .constant
    · simp only [Head.bare, constant, if_true]
    · obtain rfl := meaning constant
      rfl
  · intro same
    have kinds : kind = kind' := by
      have kept (h : Head α) : h.bare.kind = h.kind := by
        unfold Head.bare
        split <;> rfl
      exact (kept _).symm.trans ((congrArg Head.kind same).trans (kept _))
    subst kinds
    by_cases constant : kind = .constant
    · simp only [Head.bare, constant, if_true, Head.mk.injEq, true_and] at same
      exact ⟨rfl, same.1, same.2, fun other => absurd constant other⟩
    · simp only [Head.bare, constant, if_false] at same
      rw [same]
      exact .refl _

namespace Formula

variable {f g : Formula α}

/-- The formula without ids and without labels of constants. -/
def bare : Formula α → Formula α := fold fun f below => node "" f.head.bare below

theorem bare_node (id : String) (head : Head α) (children : List (Formula α)) :
    (node id head children).bare = node "" head.bare (children.map bare) := fold_node _ id head children

/-- Formulas differ only in ids and labels of constants if they are the same without these. -/
theorem alike_iff_bare : f.Alike (fun _ _ => True) Head.Alike g ↔ f.bare = g.bare := by
  constructor
  · intro alike
    refine alike.fold_eq fun alike below => ?_
    rw [Head.alike_iff_bare.mp alike.head]
  · intro same
    induction f generalizing g with
    | node id head children ih =>
      obtain ⟨id', head', children'⟩ := g
      rw [bare_node, bare_node, Formula.node.injEq] at same
      obtain ⟨-, heads, below⟩ := same
      refine .node trivial (Head.alike_iff_bare.mpr heads) ?_
      rw [← List.forall₂_eq_eq_eq, List.forall₂_map_left_iff, List.forall₂_map_right_iff] at below
      exact forall₂_imp_of_mem (fun child member _ same => ih child member same) below

end Formula

namespace Rulebook

variable [Scalar α] {f g : Formula α}

/-- Ids and labels of constants are inert. Formulas that are the same without them have the same value
under all bindings, the same measures and principles, and by the standard rules the same rules fire on
them in a pass and the same steps make up their reduction, with outputs that are again the same. -/
theorem ids_and_labels_inert (same : f.bare = g.bare) :
    (∀ env, f.evaluate env = g.evaluate env) ∧
      (∀ precision, g.analyze precision = { f.analyze precision with formula := g }) ∧
      (∀ (precision : α) (m n : Nat),
        let x := ((standard precision).applyOnce f m).1
        let y := ((standard precision).applyOnce g n).1
        x.fired = y.fired ∧ x.output.bare = y.output.bare) ∧
      (∀ (precision accuracy : α) (bound m n : Nat),
        let x := ((standard precision).reduce accuracy bound f m).1
        let y := ((standard precision).reduce accuracy bound g n).1
        x.steps = y.steps ∧ x.converged = y.converged ∧ x.output.bare = y.output.bare) ∧
      f.principles = g.principles := by
  have alike := Formula.alike_iff_bare.mpr same
  have respects (precision : α) : (standard precision).Respects (fun _ _ => True) Head.Alike :=
    standard_respects precision
  have aligned (m n : Nat) : Fresh.Aligned (fun _ _ => True) m n := fun _ => trivial
  refine ⟨alike.evaluate, fun precision => (alike.analyze precision).measures, ?_, ?_,
    alike.principles⟩
  · intro precision m n
    have passes := ((respects precision).applyOnce alike m n (aligned m n)).1
    exact ⟨passes.fired, Formula.alike_iff_bare.mp passes.output⟩
  · intro precision accuracy bound m n
    have reductions := ((respects precision).reduce accuracy bound alike m n (aligned m n)).1
    exact ⟨reductions.steps, reductions.converged, Formula.alike_iff_bare.mp reductions.output⟩

/-- The square of the golden ratio, shown under its symbol, as a number, or under another label. -/
def goldenPower (label : Option String) : Fresh (Formula Float) := do
  let base ← Formula.build ⟨.constant, some Scalar.golden, label, none⟩ []
  Formula.binary "^" base (← Formula.constant 2)

/-- A label that reads as another operand does not keep the rule from firing. -/
theorem ids_and_labels_inert_square :
    let f := (goldenPower (some "φ") 1).1
    let g := (goldenPower (some "0") 20).1
    let x := ((standard (1e-10 : Float)).reduce 1e-10 5 f 4).1
    let y := ((standard (1e-10 : Float)).reduce 1e-10 5 g 30).1
    f.bare = g.bare ∧ x.steps.map (·.rule) = ["golden-square", "constant-fold-add"] ∧
      x.steps = y.steps ∧ x.output.bare = y.output.bare ∧ f.principles = g.principles := by
  intro f g x y
  have same : f.bare = g.bare := rfl
  obtain ⟨-, -, -, reductions, principles⟩ := ids_and_labels_inert same
  obtain ⟨steps, -, outputs⟩ := reductions 1e-10 1e-10 5 4 30
  have rules : x.steps.map (·.rule) = ["golden-square", "constant-fold-add"] := by decide +kernel
  exact ⟨same, rules, steps, outputs, principles⟩

end Rulebook
end FormulaLab
