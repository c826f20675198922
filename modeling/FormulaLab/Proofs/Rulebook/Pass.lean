import FormulaLab.Proofs.Formula.Nodes
import FormulaLab.Rulebook.Reduction

/-! What one pass does, for any rulebook. The rules of a node are tried on the node over the results of
its children; a pass is quiet exactly on the formulas without a node to which some rule applies. -/

namespace FormulaLab

/-- Successive drawings of ids: every result is that of its own member, on some counter. -/
theorem Fresh.mapM_results {β γ : Type} (draw : β → Fresh γ) (xs : List β) (n : Nat) :
    List.Forall₂ (fun x y => ∃ k, y = (draw x k).1) xs (xs.mapM draw n).1 := by
  induction xs generalizing n with
  | nil => exact .nil
  | cons x xs ih =>
    rw [List.mapM_cons]
    exact .cons ⟨n, rfl⟩ (ih _)

theorem exists_partner {β γ : Type} {R : β → γ → Prop} {xs : List β} {ys : List γ} {x : β}
    (related : List.Forall₂ R xs ys) (member : x ∈ xs) : ∃ y ∈ ys, R x y := by
  induction related with
  | nil => contradiction
  | @cons _ y _ _ first _ ih =>
    obtain rfl | later := List.mem_cons.mp member
    · exact ⟨y, List.mem_cons_self, first⟩
    · obtain ⟨z, below, holds⟩ := ih later
      exact ⟨z, List.mem_cons_of_mem _ below, holds⟩

namespace Rulebook

variable {α : Type} {book : Rulebook α} {f : Formula α}

theorem firstMatch?_eq_none :
    book.firstMatch? f = none ↔ ∀ rule ∈ book.rules, rule.pattern f = false := by
  simp only [firstMatch?, List.find?_eq_none, Bool.not_eq_true]

theorem firstMatch?_eq_some {rule : Rule α} (matched : book.firstMatch? f = some rule) :
    rule ∈ book.rules ∧ rule.pattern f = true :=
  ⟨List.mem_of_find?_eq_some matched,
    List.find?_some (p := fun rule : Rule α => rule.pattern f) matched⟩

/-- No rule applies to the formula or to a node below it. -/
def Normal (book : Rulebook α) (f : Formula α) : Prop :=
  ∀ g ∈ f.nodes, ∀ rule ∈ book.rules, rule.pattern g = false

instance (book : Rulebook α) (f : Formula α) : Decidable (book.Normal f) :=
  inferInstanceAs (Decidable (∀ g ∈ f.nodes, ∀ rule ∈ book.rules, rule.pattern g = false))

theorem normal_node {id : String} {head : Head α} {children : List (Formula α)} :
    book.Normal (.node id head children) ↔
      book.firstMatch? (.node id head children) = none ∧ ∀ child ∈ children, book.Normal child := by
  rw [firstMatch?_eq_none]
  exact Formula.forall_nodes_node

/-- The rules tried on a node, with the names of the rules that fired below it. -/
def tryRules (book : Rulebook α) (below : List String) (current : Formula α) : Fresh (Pass α) := do
  match book.firstMatch? current with
  | some rule => return ⟨← rule.transform current, below ++ [rule.name]⟩
  | none => return ⟨current, below⟩

/-- A pass at a node over which the rules are tried: it is kept, or a rule has replaced it. -/
inductive Tried (book : Rulebook α) (below : List String) (current : Formula α) : Pass α → Prop where
  | kept : book.firstMatch? current = none → Tried book below current ⟨current, below⟩
  | replaced (rule : Rule α) (n : Nat) : book.firstMatch? current = some rule →
      Tried book below current ⟨(rule.transform current n).1, below ++ [rule.name]⟩

theorem tryRules_tried (book : Rulebook α) (below : List String) (current : Formula α) (n : Nat) :
    Tried book below current (book.tryRules below current n).1 := by
  cases matched : book.firstMatch? current with
  | none =>
    simp only [tryRules, matched]
    exact .kept matched
  | some rule =>
    simp only [tryRules, matched]
    exact .replaced rule n matched

theorem applyOnce_node (id : String) (head : Head α) (children : List (Formula α)) :
    book.applyOnce (.node id head children) = (do
      let passes ← children.mapM book.applyOnce
      let current ←
        if passes.flatMap (·.fired) = [] then pure (.node id head children)
        else Formula.build head (passes.map (·.output))
      book.tryRules (passes.flatMap (·.fired)) current) := by
  rw [applyOnce, Formula.fold_node, passNode, List.mapM_map]
  rfl

/-- A pass at a node and the counters on its way: after passes over the children, the rules are tried on
the node that was kept or rebuilt over their results. -/
theorem applyOnce_node_run (book : Rulebook α) (id : String) (head : Head α)
    (children : List (Formula α)) (n : Nat) :
    ∃ (passes : List (Pass α)) (current : Formula α) (k m : Nat),
      children.mapM book.applyOnce n = (passes, k) ∧
      (passes.flatMap (·.fired) = [] ∧ current = .node id head children ∧ m = k ∨
        passes.flatMap (·.fired) ≠ [] ∧ current = .node (nodeId k) head (passes.map (·.output)) ∧
          m = k + 1) ∧
      book.applyOnce (.node id head children) n =
        book.tryRules (passes.flatMap (·.fired)) current m := by
  rw [applyOnce_node]
  cases swept : children.mapM book.applyOnce n with
  | mk passes k =>
    simp only [bind, StateT.bind, swept]
    by_cases quiet : passes.flatMap (·.fired) = []
    · rw [if_pos quiet]
      exact ⟨passes, _, k, k, rfl, .inl ⟨quiet, rfl, rfl⟩, rfl⟩
    · rw [if_neg quiet]
      exact ⟨passes, _, k, k + 1, rfl, .inr ⟨quiet, rfl, rfl⟩, rfl⟩

/-- What a pass at a node comes to: passes over the children, the node kept or rebuilt over their results,
and the rules tried on it. -/
theorem applyOnce_node_cases (book : Rulebook α) (id : String) (head : Head α)
    (children : List (Formula α)) (n : Nat) :
    ∃ (passes : List (Pass α)) (current : Formula α),
      List.Forall₂ (fun child pass => ∃ m, pass = (book.applyOnce child m).1) children passes ∧
      (passes.flatMap (·.fired) = [] ∧ current = .node id head children ∨
        passes.flatMap (·.fired) ≠ [] ∧ ∃ k, current = .node (nodeId k) head (passes.map (·.output))) ∧
      Tried book (passes.flatMap (·.fired)) current (book.applyOnce (.node id head children) n).1 := by
  obtain ⟨passes, current, k, m, swept, built, tried⟩ := applyOnce_node_run book id head children n
  have results := Fresh.mapM_results book.applyOnce children n
  rw [swept] at results
  refine ⟨passes, current, results, ?_, tried ▸ tryRules_tried ..⟩
  obtain ⟨quiet, kept, -⟩ | ⟨loud, rebuilt, -⟩ := built
  · exact .inl ⟨quiet, kept⟩
  · exact .inr ⟨loud, k, rebuilt⟩

/-- A quiet pass keeps the formula, and no rule applies anywhere in it. -/
theorem quiet_pass {n : Nat} (quiet : (book.applyOnce f n).1.fired = []) :
    (book.applyOnce f n).1.output = f ∧ book.Normal f := by
  induction f generalizing n with
  | node id head children ih =>
    obtain ⟨passes, current, results, built, tried⟩ := applyOnce_node_cases book id head children n
    generalize (book.applyOnce (.node id head children) n).1 = pass at tried quiet
    cases tried with
    | kept unmatched =>
      obtain ⟨-, rfl⟩ | ⟨loud, -⟩ := built
      · refine ⟨rfl, normal_node.mpr ⟨unmatched, fun child member => ?_⟩⟩
        obtain ⟨pass, below, m, rfl⟩ := exists_partner results member
        exact (ih child member (List.flatMap_eq_nil_iff.mp quiet _ below)).2
      · exact absurd quiet loud
    | replaced rule m matched =>
      have loud := List.append_ne_nil_of_right_ne_nil (passes.flatMap (·.fired))
        (List.cons_ne_nil rule.name [])
      exact absurd quiet loud

theorem quiet_outputs {children : List (Formula α)} {passes : List (Pass α)}
    (results : List.Forall₂ (fun child pass => ∃ m, pass = (book.applyOnce child m).1) children passes)
    (quiet : passes.flatMap (·.fired) = []) : passes.map (·.output) = children := by
  induction results with
  | nil => rfl
  | cons first _ ih =>
    obtain ⟨m, rfl⟩ := first
    rw [List.flatMap_cons, List.append_eq_nil_iff] at quiet
    rw [List.map_cons, (quiet_pass quiet.1).1, ih quiet.2]

theorem mapM_of_normal {children : List (Formula α)}
    (silent : ∀ child ∈ children, ∀ n, book.applyOnce child n = (⟨child, []⟩, n)) (n : Nat) :
    children.mapM book.applyOnce n = (children.map (⟨·, []⟩), n) := by
  induction children with
  | nil => rfl
  | cons child rest ih =>
    have restSilent := ih fun c member => silent c (List.mem_cons_of_mem _ member)
    simp only [List.mapM_cons, bind, StateT.bind, silent child List.mem_cons_self, restSilent]
    rfl

/-- On a normal formula a pass does nothing at all; no id is drawn. -/
theorem applyOnce_of_normal (normal : book.Normal f) (n : Nat) :
    book.applyOnce f n = (⟨f, []⟩, n) := by
  induction f generalizing n with
  | node id head children ih =>
    obtain ⟨unmatched, below⟩ := normal_node.mp normal
    have swept := mapM_of_normal (fun child member => ih child member (below child member)) n
    have quiet : (children.map (⟨·, []⟩)).flatMap (Pass.fired (α := α)) = [] := by simp
    rw [applyOnce_node]
    simp only [bind, StateT.bind, swept, quiet, if_true, pure, StateT.pure, tryRules, unmatched]

theorem quiet_iff_normal {n : Nat} : (book.applyOnce f n).1.fired = [] ↔ book.Normal f := by
  constructor
  · intro quiet
    exact (quiet_pass quiet).2
  · intro normal
    rw [applyOnce_of_normal normal]

/-- A relation between formulas and their passes holds if it passes from the children of a node to
the node: over the results of the children, under the old id or a new one, the rules are tried. -/
theorem pass_induction {motive : Formula α → Pass α → Prop}
    (node : ∀ id current head children passes pass, List.Forall₂ motive children passes →
      Tried book (passes.flatMap (·.fired)) (.node current head (passes.map (·.output))) pass →
      motive (.node id head children) pass)
    (f : Formula α) (n : Nat) : motive f (book.applyOnce f n).1 := by
  induction f generalizing n with
  | node id head children ih =>
    obtain ⟨passes, current, results, built, tried⟩ := applyOnce_node_cases book id head children n
    have related : List.Forall₂ motive children passes :=
      ((List.forall₂_and_left _ _).mpr ⟨ih, results⟩).imp fun _ _ ⟨holds, m, same⟩ => same ▸ holds m
    generalize (book.applyOnce (.node id head children) n).1 = pass at tried ⊢
    obtain ⟨quiet, rfl⟩ | ⟨-, k, rfl⟩ := built
    -- A node that is kept stands over its old children, which are then the results too.
    · rw [← quiet_outputs results quiet] at tried
      exact node id id head children passes pass related tried
    · exact node id (nodeId k) head children passes pass related tried

end Rulebook
end FormulaLab
