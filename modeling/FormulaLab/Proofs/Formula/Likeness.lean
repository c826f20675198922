import FormulaLab.Consistency.Principles
import FormulaLab.Formula.Analysis
import Mathlib.Data.List.Forall2

/-! Likeness of formulas: the same shape, with ids and heads related node by node. Ids never count for a
measure of a formula, and the label of a constant counts for nothing but its text. -/

namespace FormulaLab

variable {α β γ δ : Type}

section Lists

variable {R S : β → γ → Prop} {xs : List β} {ys : List γ}

theorem forall₂_imp_of_mem (each : ∀ x ∈ xs, ∀ y, R x y → S x y) (related : List.Forall₂ R xs ys) :
    List.Forall₂ S xs ys :=
  ((List.forall₂_and_left _ _).mpr ⟨each, related⟩).imp fun _ _ ⟨holds, first⟩ => holds _ first

theorem map_eq_map_of_forall₂ {f : β → δ} {g : γ → δ}
    (related : List.Forall₂ (fun x y => f x = g y) xs ys) : xs.map f = ys.map g := by
  rwa [← List.forall₂_eq_eq_eq, List.forall₂_map_left_iff, List.forall₂_map_right_iff]

theorem eq_map_of_forall₂ {f : β → γ} (related : List.Forall₂ (fun x y => y = f x) xs ys) :
    ys = xs.map f := by
  rw [← List.map_id ys]
  exact (map_eq_map_of_forall₂ (related.imp fun _ _ same => same.symm)).symm

end Lists

/-- Heads that differ at most in the label of a constant. -/
structure Head.Alike (h k : Head α) : Prop where
  kind : h.kind = k.kind
  value : h.value = k.value
  companions : h.companions = k.companions
  symbol : h.kind ≠ .constant → h.symbol = k.symbol

/-- Relations between heads that allow for no more difference than that. -/
class Head.Likeness (heads : Head α → Head α → Prop) : Prop where
  refl (h : Head α) : heads h h
  alike (h k : Head α) : heads h k → h.Alike k

theorem Head.Alike.refl (h : Head α) : h.Alike h := ⟨rfl, rfl, rfl, fun _ => rfl⟩

instance : Head.Likeness (α := α) (· = ·) where
  refl _ := rfl
  alike h _ same := same ▸ .refl h

instance : Head.Likeness (α := α) Head.Alike where
  refl := .refl
  alike _ _ alike := alike

namespace Formula

inductive Alike (ids : String → String → Prop) (heads : Head α → Head α → Prop) :
    Formula α → Formula α → Prop where
  | node {id id' : String} {head head' : Head α} {children children' : List (Formula α)} :
      ids id id' → heads head head' → List.Forall₂ (Alike ids heads) children children' →
      Alike ids heads (node id head children) (node id' head' children')

end Formula

/-- The same measures of alike formulas. -/
structure Analysis.Alike (ids : String → String → Prop) (heads : Head α → Head α → Prop)
    (x y : Analysis α) : Prop where
  formula : x.formula.Alike ids heads y.formula
  measures : y = { x with formula := y.formula }

namespace Formula

variable {ids : String → String → Prop} {heads : Head α → Head α → Prop} {f g : Formula α}

/-- Folds whose steps take alike nodes with related results to related results are related. -/
theorem Alike.fold {step : Formula α → List β → β} {step' : Formula α → List γ → γ}
    {Q : β → γ → Prop} (respects : ∀ {f g xs ys}, Alike ids heads f g → List.Forall₂ Q xs ys →
      Q (step f xs) (step' g ys)) (alike : Alike ids heads f g) :
    Q (f.fold step) (g.fold step') := by
  induction f generalizing g with
  | node id head children ih =>
    cases alike with
    | node i h below =>
      rw [fold_node, fold_node]
      refine respects (.node i h below) ?_
      rw [List.forall₂_map_left_iff, List.forall₂_map_right_iff]
      exact forall₂_imp_of_mem (fun child member _ alike => ih child member alike) below

theorem Alike.fold_eq {step : Formula α → List β → β}
    (respects : ∀ {f g}, Alike ids heads f g → ∀ results, step f results = step g results)
    (alike : Alike ids heads f g) : f.fold step = g.fold step := by
  refine alike.fold fun {f g xs ys} alike same => ?_
  rw [List.forall₂_eq_eq_eq] at same
  rw [same, respects alike]

/-! What alike nodes have in common. -/

section Nodes

variable [Head.Likeness heads]

theorem Alike.head (alike : Alike ids heads f g) : f.head.Alike g.head := by
  cases alike with
  | node i h below => exact Head.Likeness.alike _ _ h

omit [Head.Likeness heads] in
theorem Alike.children (alike : Alike ids heads f g) :
    List.Forall₂ (Alike ids heads) f.children g.children := by
  cases alike with
  | node i h below => exact below

theorem Alike.kind (alike : Alike ids heads f g) : f.kind = g.kind := alike.head.kind

theorem Alike.value (alike : Alike ids heads f g) : f.value = g.value := alike.head.value

theorem Alike.companions (alike : Alike ids heads f g) : f.companions = g.companions :=
  alike.head.companions

theorem Alike.symbol (alike : Alike ids heads f g) (other : f.kind ≠ .constant) :
    f.symbol = g.symbol := alike.head.symbol other

theorem Alike.isOperator (alike : Alike ids heads f g) (op : String) :
    f.isOperator op = g.isOperator op := by
  rw [Formula.isOperator, Formula.isOperator, ← alike.kind]
  cases operator : f.kind with
  | operator => rw [alike.symbol (by rw [operator]; decide)]
  | constant | var | function | dual => rfl

theorem Alike.isConstantNear [Scalar α] (alike : Alike ids heads f g) (target tolerance : α) :
    f.isConstantNear target tolerance = g.isConstantNear target tolerance := by
  rw [Formula.isConstantNear, Formula.isConstantNear, alike.kind, alike.value]

end Nodes

/-! Measures. -/

variable [Head.Likeness heads]

theorem Alike.complexity (alike : Alike ids heads f g) : f.complexity = g.complexity := by
  refine alike.fold_eq fun alike results => ?_
  rw [alike.kind]

omit [Head.Likeness heads] in
theorem Alike.depth (alike : Alike ids heads f g) : f.depth = g.depth :=
  alike.fold_eq fun _ _ => rfl

theorem Alike.variableNames (alike : Alike ids heads f g) : f.variableNames = g.variableNames := by
  refine alike.fold_eq fun {f g} alike results => ?_
  rw [← alike.kind]
  by_cases var : f.kind = .var
  · rw [alike.symbol (by rw [var]; decide)]
  · rw [if_neg var, if_neg var]

theorem Alike.constants (alike : Alike ids heads f g) :
    List.Forall₂ (Alike ids heads) f.constants g.constants := by
  refine Alike.fold (Q := List.Forall₂ (Alike ids heads)) ?_ alike
  intro f g xs ys alike below
  refine List.rel_append ?_ (List.rel_flatten below)
  rw [← alike.kind]
  by_cases constant : f.kind = .constant
  · rw [if_pos constant, if_pos constant]
    exact .cons alike .nil
  · rw [if_neg constant, if_neg constant]
    exact .nil

theorem Alike.constantValues (alike : Alike ids heads f g) :
    f.constants.map Formula.value = g.constants.map Formula.value :=
  map_eq_map_of_forall₂ (alike.constants.imp fun _ _ same => same.value)

variable [Scalar α]

theorem Alike.evaluateNode (alike : Alike ids heads f g) (env : Environment α)
    (values : List (Option α)) : evaluateNode env f values = evaluateNode env g values := by
  unfold Formula.evaluateNode combineValues
  rw [← alike.kind]
  cases kind : f.kind with
  | constant => rw [alike.value]
  | dual => rfl
  | var | operator | function => rw [alike.symbol (by rw [kind]; decide)]

theorem Alike.evaluate (alike : Alike ids heads f g) (env : Environment α) :
    f.evaluate env = g.evaluate env :=
  alike.fold_eq fun alike results => alike.evaluateNode env results

theorem Alike.closedValue (alike : Alike ids heads f g) : f.closedValue = g.closedValue :=
  alike.evaluate _

theorem Alike.analyze (alike : Alike ids heads f g) (precision : α) :
    (f.analyze precision).Alike ids heads (g.analyze precision) where
  formula := alike
  measures := by simp only [Formula.analyze, alike.closedValue, alike.complexity, alike.depth]

/-! Consistency. -/

theorem Alike.finiteConstants (alike : Alike ids heads f g) : f.finiteConstants = g.finiteConstants := by
  have values (f : Formula α) : f.constants.filterMap Formula.value =
      (f.constants.map Formula.value).filterMap fun value => value := by
    rw [List.filterMap_map]
    rfl
  rw [Formula.finiteConstants, Formula.finiteConstants, values, values, alike.constantValues]

theorem Alike.dualsHold (alike : Alike ids heads f g) : f.dualsHold = g.dualsHold := by
  refine alike.fold_eq fun alike results => ?_
  rw [companionsAgree, companionsAgree, alike.kind, alike.companions]

theorem Alike.principles (alike : Alike ids heads f g) : f.principles = g.principles := by
  have zero : f.zeroEnvironment = g.zeroEnvironment := by
    unfold zeroEnvironment
    rw [alike.variableNames]
  have ratio : f.constantRatioHolds = g.constantRatioHolds := by
    rw [constantRatioHolds, constantRatioHolds, alike.finiteConstants]
  have finite : (f.constants.all fun c => isFiniteValue c.value) =
      g.constants.all fun c => isFiniteValue c.value := by
    have through (f : Formula α) : (f.constants.all fun c => isFiniteValue c.value) =
        (f.constants.map Formula.value).all isFiniteValue := List.all_map.symm
    rw [through, through, alike.constantValues]
  unfold Formula.principles
  rw [alike.closedValue, alike.evaluate, zero, alike.dualsHold, ratio, finite]

theorem Alike.nodeFaults_length (alike : Alike ids heads f g) :
    f.nodeFaults.length = g.nodeFaults.length := by
  have divides : f.dividesByZero = g.dividesByZero := by
    rw [dividesByZero, dividesByZero, alike.isOperator]
    have below := alike.children
    generalize f.children = children, g.children = children' at below
    cases below with
    | nil => rfl
    | cons first rest =>
      cases rest with
      | nil => rfl
      | cons second _ => simp only [second.isConstantNear]
  have unbounded : f.isNonFiniteConstant = g.isNonFiniteConstant := by
    rw [isNonFiniteConstant, isNonFiniteConstant, alike.kind, alike.value]
  rw [nodeFaults, nodeFaults, divides, unbounded]
  cases g.dividesByZero <;> cases g.isNonFiniteConstant <;> rfl

omit [Head.Likeness heads] in
theorem faultsAll_eq (path : List String) (fs : List (Formula α)) :
    faultsAll path fs = fs.flatMap (faults path) := by
  induction fs with
  | nil => rfl
  | cons f fs ih => rw [faultsAll, ih, List.flatMap_cons]

/-- Under distinct names for distinct ids the same ids repeat on a path. -/
theorem Alike.faults_length (unique : Relator.BiUnique ids) {path path' : List String}
    (along : List.Forall₂ ids path path') (alike : Alike ids heads f g) :
    (f.faults path).length = (g.faults path').length := by
  induction f generalizing g path path' with
  | node id head children ih =>
    cases alike with
    | @node _ id' _ head' _ children' i h below =>
      have repeats : id ∈ path ↔ id' ∈ path' := List.rel_mem unique i along
      rw [Formula.faults, Formula.faults]
      by_cases cycle : id ∈ path
      · rw [if_pos (List.contains_iff_mem.mpr cycle),
          if_pos (List.contains_iff_mem.mpr (repeats.mp cycle))]
        rfl
      · have new : ¬id' ∈ path' := fun member => cycle (repeats.mpr member)
        have lengths : (children.map fun c => (c.faults (id :: path)).length) =
            children'.map fun c => (c.faults (id' :: path')).length :=
          map_eq_map_of_forall₂
            (forall₂_imp_of_mem (fun c member _ alike => ih c member (.cons i along) alike) below)
        rw [if_neg (mt List.contains_iff_mem.mp cycle), if_neg (mt List.contains_iff_mem.mp new),
          List.length_append, List.length_append, (Alike.node i h below).nodeFaults_length,
          faultsAll_eq, faultsAll_eq, List.length_flatMap, List.length_flatMap, lengths]

theorem Alike.signImbalance? (alike : Alike ids heads f g) : f.signImbalance? = g.signImbalance? := by
  unfold Formula.signImbalance?
  rw [alike.finiteConstants]

theorem Alike.verify (unique : Relator.BiUnique ids) (alike : Alike ids heads f g) :
    f.verify = g.verify := by
  have count : f.issues.length = g.issues.length := by
    rw [issues, issues, List.length_append, List.length_append, alike.faults_length unique .nil,
      alike.signImbalance?]
  rw [Formula.verify, Formula.verify, alike.principles, structureReport, structureReport, count]

end Formula
end FormulaLab
