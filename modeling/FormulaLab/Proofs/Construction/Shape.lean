import FormulaLab.Formula.Analysis
import FormulaLab.Proofs.Construction.Replacement
import FormulaLab.Proofs.Formula.Correspondence

/-! The shape of chains. In a chain every formula takes the place of the first variable of the next one,
so sizes add up but for the variables that are gone, and the other variables keep their order. A formula
without variables takes nothing in, and the chain starts again with it. -/

namespace FormulaLab

open Fresh (Corresponds Yields)

variable {α : Type}

/-- Ids that are the same, or that are drawn as many places after two counters. -/
def Redrawn (m n : Nat) (i j : String) : Prop := i = j ∨ ∃ k, i = nodeId (m + k) ∧ j = nodeId (n + k)

theorem redrawn_aligned (m n : Nat) : Fresh.Aligned (Redrawn m n) m n := fun k => .inr ⟨k, rfl, rfl⟩

theorem exists_last {β : Type} {p : β → Prop} {xs : List β} (holds : ∃ x ∈ xs, p x) :
    ∃ before last after, xs = before ++ last :: after ∧ p last ∧ ∀ x ∈ after, ¬p x := by
  induction xs with
  | nil => simp at holds
  | cons x xs ih =>
    by_cases later : ∃ y ∈ xs, p y
    · obtain ⟨before, last, after, rfl, here, beyond⟩ := ih later
      exact ⟨x :: before, last, after, rfl, here, beyond⟩
    · obtain ⟨y, member, here⟩ := holds
      obtain rfl | member := List.mem_cons.mp member
      · exact ⟨[], y, xs, rfl, here, fun z member here => later ⟨z, member, here⟩⟩
      · exact absurd ⟨y, member, here⟩ later

namespace Formula

variable {id : String} {head : Head α} {children : List (Formula α)} {f g r t : Formula α} {n : Nat}

theorem complexity_additive :
    Additive (complexity (α := α)) fun kind => if kind = .function then 2 else 1 := by
  intro id head children
  rw [complexity, fold_node, foldr_add]
  rfl

/-! Variables of complete formulas. -/

theorem Closed.variableNames (closed : f.Closed) : f.variableNames = [] := by
  rw [variableNames_eq, closed_iff.mp closed, List.reduceOption_nil]

/-- Variables are leaves and have a name. -/
theorem WellFormed.variable_leaf (complete : (node id head children).WellFormed)
    (var : head.kind = .var) : (∃ x, head.symbol = some x) ∧ children = [] := by
  have fits : head.Fits children.length := (forall_nodes_node.mp complete).1
  rw [Head.Fits, var] at fits
  exact ⟨Option.isSome_iff_exists.mp fits.1, List.length_eq_zero_iff.mp fits.2⟩

theorem WellFormed.child (complete : (node id head children).WellFormed) (member : f ∈ children) :
    f.WellFormed := (forall_nodes_node.mp complete).2 f member

/-- The variables of the replacement come in the place of the first one. -/
theorem Replaces.symbols (complete : t.WellFormed) (replaced : Replaces r t g) :
    ∃ x later, t.variableSymbols = some x :: later ∧
      g.variableSymbols = r.variableSymbols ++ later := by
  induction replaced with
  | @root id head children var =>
    obtain ⟨⟨x, named⟩, rfl⟩ := complete.variable_leaf var
    refine ⟨x, [], ?_, (List.append_nil _).symm⟩
    rw [variableSymbols_node, if_pos var, named]
    rfl
  | @child id id' head before after child g plain closed _ ih =>
    obtain ⟨x, later, first, symbols⟩ := ih (complete.child (by simp))
    refine ⟨x, later ++ after.flatMap Formula.variableSymbols, ?_, ?_⟩
    · rw [variableSymbols_below plain closed, first, List.cons_append]
    · rw [variableSymbols_below plain closed, symbols, List.append_assoc]

theorem Replaces.variableNames (complete : t.WellFormed) (replaced : Replaces r t g) :
    ∃ x later, t.variableNames = x :: later ∧ g.variableNames = r.variableNames ++ later := by
  obtain ⟨x, later, first, symbols⟩ := replaced.symbols complete
  refine ⟨x, later.reduceOption, ?_, ?_⟩
  · rw [variableNames_eq, first, List.reduceOption_cons_of_some]
  · rw [variableNames_eq, variableNames_eq, symbols, List.reduceOption_append]

theorem closed_iff_names (complete : f.WellFormed) : f.Closed ↔ f.variableNames = [] := by
  refine ⟨Closed.variableNames, fun none => ?_⟩
  by_contra opened
  obtain ⟨g, -, -, replaced⟩ := substituteFirst?_replaces (r := f) opened 0
  obtain ⟨x, later, first, -⟩ := replaced.variableNames complete
  exact List.cons_ne_nil x later (first.symm.trans none)

/-- The variable goes and the replacement comes. -/
theorem Replaces.measure {measure : Formula α → Nat} {weight : Kind → Nat}
    (additive : Additive measure weight) (complete : t.WellFormed) (replaced : Replaces r t g) :
    measure g + weight .var = measure t + measure r := by
  induction replaced with
  | @root id head children var =>
    obtain ⟨-, rfl⟩ := complete.variable_leaf var
    rw [additive, var, List.map_nil, List.sum_nil, Nat.zero_add, Nat.add_comm]
  | @child id id' head before after child g plain closed _ ih =>
    have exchanged := ih (complete.child (by simp))
    simp only [additive id, additive id', List.map_append, List.map_cons, List.sum_append,
      List.sum_cons]
    omega

/-! Chains. -/

section Open

variable {rest : List (Formula α)} (complete : ∀ f ∈ rest, f.WellFormed)
  (opened : ∀ f ∈ rest, ¬f.Closed)
include complete opened

theorem chain_measure {measure : Formula α → Nat} {weight : Kind → Nat}
    (additive : Additive measure weight) (single : weight .var = 1) (first : Formula α) (n : Nat) :
    measure (rest.foldlM compose first n).1 + rest.length =
      ((first :: rest).map measure).sum := by
  induction rest generalizing first n with
  | nil => rfl
  | cons next rest ih =>
    rw [List.forall_mem_cons] at complete opened
    have composed := (compose_replaces (r := first) opened.1 n).measure additive complete.1
    have later := ih complete.2 opened.2 (compose first next n).1 (compose first next n).2
    rw [foldlM_compose_cons]
    simp only [List.map_cons, List.sum_cons, List.length_cons] at later ⊢
    omega

theorem chain_variableNames (first : Formula α) (n : Nat) :
    (rest.foldlM compose first n).1.variableNames =
      first.variableNames ++ rest.flatMap (·.variableNames.tail) := by
  induction rest generalizing first n with
  | nil => exact (List.append_nil _).symm
  | cons next rest ih =>
    rw [List.forall_mem_cons] at complete opened
    obtain ⟨x, later, names, composed⟩ :=
      (compose_replaces (r := first) opened.1 n).variableNames complete.1
    rw [foldlM_compose_cons, ih complete.2 opened.2, composed, List.flatMap_cons, names,
      List.tail_cons, List.append_assoc]

end Open

/-- A formula without variables starts the chain again, with ids drawn later. -/
theorem chain_restarts {last : Formula α} (closed : last.Closed) (first : Formula α)
    (before after : List (Formula α)) (n : Nat) :
    ∃ m, n ≤ m ∧ (before ++ last :: after).foldlM compose first n = after.foldlM compose last m := by
  induction before generalizing first n with
  | nil =>
    have composed := unrestricted_hereditary.compose_yields (f := first) (g := last) (n := n)
      (fun _ _ => trivial) fun _ _ => trivial
    refine ⟨_, composed.onwards, ?_⟩
    rw [List.nil_append, foldlM_compose_cons, compose_closed closed]
  | cons next before ih =>
    have composed := unrestricted_hereditary.compose_yields (f := first) (g := next) (n := n)
      (fun _ _ => trivial) fun _ _ => trivial
    obtain ⟨m, later, same⟩ := ih (compose first next n).1 (compose first next n).2
    refine ⟨m, composed.onwards.trans later, ?_⟩
    rw [List.cons_append, foldlM_compose_cons, same]

theorem alike_self {ids : String → String → Prop} (same : ∀ i, ids i i) (f : Formula α) :
    f.Alike ids (· = ·) f := by
  induction f with
  | node id head children ih => exact .node (same id) rfl (List.forall₂_same.mpr ih)

/-- A chain with ids drawn from another counter differs in these ids only. -/
theorem chain_redrawn (first : Formula α) (rest : List (Formula α)) (m n : Nat) :
    (rest.foldlM compose first m).1.Alike (Redrawn m n) (· = ·) (rest.foldlM compose first n).1 := by
  have self (f : Formula α) : f.Alike (Redrawn m n) (· = ·) f := alike_self (fun _ => .inl rfl) f
  have corresponds : Corresponds (Redrawn m n) (Alike (Redrawn m n) (· = ·))
      (rest.foldlM compose first) (rest.foldlM compose first) :=
    foldlM_compose_corresponds (List.forall₂_same.mpr fun f _ => self f) (self first)
  exact (corresponds m n (redrawn_aligned m n)).1

/-- The shape of a chain of complete formulas. If one after the first has no variable, the chain is that
of the formulas from the last such one on, but for the ids that are drawn. Otherwise one node goes for
every composition, a variable, and the names are those of the first formula and all but the first name of
each of the others, in order. -/
theorem chain_shape (first : Formula α) {rest : List (Formula α)}
    (complete : ∀ f ∈ rest, f.WellFormed) (n : Nat) :
    ∃ chained, chain (first :: rest) = .ok chained ∧
      ((∃ f ∈ rest, f.variableNames = []) →
        ∃ before last after, rest = before ++ last :: after ∧ last.variableNames = [] ∧
          (∀ f ∈ after, f.variableNames ≠ []) ∧
          ∃ suffix, chain (last :: after) = .ok suffix ∧
            ∃ m, n ≤ m ∧ ∀ k, (chained n).1.Alike (Redrawn m k) (· = ·) (suffix k).1) ∧
      ((∀ f ∈ rest, f.variableNames ≠ []) →
        (chained n).1.nodeCount + rest.length = ((first :: rest).map nodeCount).sum ∧
          (chained n).1.complexity + rest.length = ((first :: rest).map complexity).sum ∧
          (chained n).1.variableNames =
            first.variableNames ++ rest.flatMap (·.variableNames.tail)) := by
  refine ⟨_, rfl, fun closed => ?_, fun opened => ?_⟩
  · obtain ⟨before, last, after, rfl, names, beyond⟩ := exists_last closed
    have closed : last.Closed := (closed_iff_names (complete last (by simp))).mpr names
    obtain ⟨m, later, same⟩ := chain_restarts closed first before after n
    refine ⟨before, last, after, rfl, names, beyond, _, rfl, m, later, fun k => ?_⟩
    rw [same]
    exact chain_redrawn last after m k
  · have opened : ∀ f ∈ rest, ¬f.Closed := fun f member closed =>
      opened f member closed.variableNames
    exact ⟨chain_measure complete opened nodeCount_additive rfl first n,
      chain_measure complete opened complexity_additive rfl first n,
      chain_variableNames complete opened first n⟩

/-- A chain of a variable, a product and a sum, and one that a constant starts again. -/
theorem chain_shape_restarted :
    let letter (x : String) : Formula Nat := node x ⟨.var, none, some x, none⟩ []
    let seven : Formula Nat := node "7" ⟨.constant, some 7, none, none⟩ []
    let product := node "*" ⟨.operator, none, some "*", none⟩ [letter "u", letter "v"]
    let sum := node "+" ⟨.operator, none, some "+", none⟩ [letter "x", letter "x"]
    (∃ chained, chain [letter "y", product, sum] = .ok chained ∧ (chained 1).1.nodeCount = 5 ∧
        (chained 1).1.complexity = 5 ∧ (chained 1).1.variableNames = ["y", "v", "x"]) ∧
      ∃ chained, chain [sum, seven, product] = .ok chained ∧
        ∃ suffix, chain [seven, product] = .ok suffix ∧
          ∃ m, 1 ≤ m ∧ ∀ k, (chained 1).1.Alike (Redrawn m k) (· = ·) (suffix k).1 := by
  intro letter seven product sum
  have constant : seven.WellFormed := by
    simp [WellFormed, seven, Head.Fits, head, children]
  have operation : product.WellFormed ∧ sum.WellFormed := by
    simp [WellFormed, product, sum, letter, Head.Fits, head, children]
  have named : product.variableNames = ["u", "v"] ∧ sum.variableNames = ["x", "x"] := by decide
  constructor
  · have complete : ∀ f ∈ [product, sum], f.WellFormed := by simpa using operation
    obtain ⟨chained, made, -, adds⟩ := chain_shape (letter "y") complete 1
    have counts : (letter "y").nodeCount = 1 ∧ product.nodeCount = 3 ∧ sum.nodeCount = 3 ∧
        (letter "y").complexity = 1 ∧ product.complexity = 3 ∧ sum.complexity = 3 := by decide
    obtain ⟨nodes, complexities, names⟩ := adds (by simp [named])
    simp only [List.map_cons, List.map_nil, List.sum_cons, List.sum_nil, List.length_cons,
      List.length_nil, counts] at nodes complexities
    refine ⟨chained, made, by omega, by omega, ?_⟩
    rw [names, List.flatMap_cons, List.flatMap_cons, named.1, named.2]
    rfl
  · have complete : ∀ f ∈ [seven, product], f.WellFormed := by simp [constant, operation]
    obtain ⟨chained, made, restarts, -⟩ := chain_shape sum complete 1
    obtain ⟨before, last, after, split, none, -, suffix, same, alike⟩ :=
      restarts ⟨seven, by simp, by decide⟩
    refine ⟨chained, made, suffix, ?_, alike⟩
    -- The product has variables, so the constant is the last formula without any.
    obtain _ | ⟨f, _ | ⟨g, before⟩⟩ := before
    · obtain ⟨rfl, rfl⟩ := List.cons.inj split
      exact same
    · obtain ⟨rfl, -⟩ := List.cons.inj (List.cons.inj split).2
      exact absurd (named.1.symm.trans none) (by decide)
    · simp at split

end Formula
end FormulaLab
