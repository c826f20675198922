import FormulaLab.Proofs.Construction.Hereditary
import FormulaLab.Proofs.Formula.Variables

/-! Replacing the first variable. The path from the root to the first variable in preorder is built anew,
and all that hangs off it stays. -/

namespace FormulaLab.Formula

variable {α : Type} {id : String} {head : Head α} {children : List (Formula α)} {f g r t : Formula α}
  {n : Nat}

/-- The second formula is the first with its first variable replaced by `r`. -/
inductive Replaces (r : Formula α) : Formula α → Formula α → Prop where
  | root {id : String} {head : Head α} {children : List (Formula α)} : head.kind = .var →
      Replaces r (node id head children) r
  | child {id id' : String} {head : Head α} {before after : List (Formula α)} {child g : Formula α} :
      head.kind ≠ .var → (∀ f ∈ before, f.Closed) → Replaces r child g →
      Replaces r (node id head (before ++ child :: after)) (node id' head (before ++ g :: after))

/-- A node with a variable below it has a first child with one. -/
theorem exists_first_open (plain : head.kind ≠ .var) (opened : ¬(node id head children).Closed) :
    ∃ before child after, children = before ++ child :: after ∧ (∀ f ∈ before, f.Closed) ∧
      ¬child.Closed := by
  have below : ∃ f ∈ children, ¬f.Closed := by
    by_contra none
    exact opened (forall_nodes_node.mpr ⟨plain, fun f member =>
      not_not.mp fun opened => none ⟨f, member, opened⟩⟩)
  obtain ⟨f, member, opened⟩ := below
  have found : (children.find? (¬·.Closed)).isSome :=
    List.find?_isSome.mpr ⟨f, member, by simpa using opened⟩
  obtain ⟨child, found⟩ := Option.isSome_iff_exists.mp found
  obtain ⟨first, before, after, rfl, closed⟩ := List.find?_eq_some_iff_append.mp found
  exact ⟨before, child, after, rfl, by simpa using closed, by simpa using first⟩

/-- Below a node that is no variable, the variables start with those of the first child that has any. -/
theorem variableSymbols_below {before after : List (Formula α)} {child : Formula α}
    (plain : head.kind ≠ .var) (closed : ∀ f ∈ before, f.Closed) :
    (node id head (before ++ child :: after)).variableSymbols =
      child.variableSymbols ++ after.flatMap variableSymbols := by
  have none : before.flatMap variableSymbols = [] :=
    List.flatMap_eq_nil_iff.mpr fun f member => closed_iff.mp (closed f member)
  rw [variableSymbols_node, if_neg plain, List.nil_append, List.flatMap_append, none, List.nil_append,
    List.flatMap_cons]

theorem Replaces.exists_first (replaced : Replaces r t g) :
    ∃ symbol later, t.variableSymbols = symbol :: later := by
  induction replaced with
  | root var => exact ⟨_, _, by rw [variableSymbols_node, if_pos var]; rfl⟩
  | child plain closed _ ih =>
    obtain ⟨symbol, later, first⟩ := ih
    exact ⟨symbol, _, by rw [variableSymbols_below plain closed, first, List.cons_append]⟩

/-! Formulas without variables are left alone, and no id is drawn for them. -/

/-- The search passes over formulas in which it finds nothing. -/
theorem substituteFirstAmong?_append {before : List (Formula α)}
    (passed : ∀ f ∈ before, ∀ n, substituteFirst? r f n = (none, n)) (rest : List (Formula α))
    (n : Nat) : substituteFirstAmong? r (before ++ rest) n =
      ((substituteFirstAmong? r rest n).1.map (before ++ ·), (substituteFirstAmong? r rest n).2) := by
  induction before with
  | nil => simp only [List.nil_append, Option.map_id', Prod.mk.eta]
  | cons f before ih =>
    rw [List.forall_mem_cons] at passed
    simp only [List.cons_append, substituteFirstAmong?, bind, StateT.bind, passed.1 n, ih passed.2]
    change (Option.map (f :: ·) (Option.map (before ++ ·) (substituteFirstAmong? r rest n).1), _) = _
    rw [Option.map_map]
    rfl

theorem substituteFirst?_closed (closed : f.Closed) (n : Nat) :
    substituteFirst? r f n = (none, n) := by
  induction f generalizing n with
  | node id head children ih =>
    obtain ⟨plain, below⟩ := forall_nodes_node.mp closed
    change head.kind ≠ .var at plain
    have among := substituteFirstAmong?_append (r := r)
      (fun child member => ih child member (below child member)) [] n
    rw [List.append_nil] at among
    simp only [substituteFirst?, if_neg plain, bind, StateT.bind, among]
    rfl

/-! In a formula with a variable the first one is replaced. -/

/-- Where the first child with a variable becomes `g`, the node is built anew with `g` in its place. -/
theorem substituteFirst?_child (id : String) {before : List (Formula α)} {child : Formula α} {k : Nat}
    (plain : head.kind ≠ .var) (closed : ∀ f ∈ before, f.Closed)
    (replaced : substituteFirst? r child n = (some g, k)) (after : List (Formula α)) :
    substituteFirst? r (node id head (before ++ child :: after)) n =
      (some (node (nodeId k) head (before ++ g :: after)), k + 1) := by
  have among := substituteFirstAmong?_append (r := r)
    (fun f member => substituteFirst?_closed (closed f member)) (child :: after) n
  have found : substituteFirstAmong? r (child :: after) n = (some (g :: after), k) := by
    simp only [substituteFirstAmong?, bind, StateT.bind, replaced]
    rfl
  rw [found] at among
  simp only [substituteFirst?, if_neg plain, bind, StateT.bind, among]
  rfl

theorem substituteFirst?_replaces (opened : ¬t.Closed) (n : Nat) :
    ∃ g k, substituteFirst? r t n = (some g, k) ∧ Replaces r t g := by
  induction t with
  | node id head children ih =>
    by_cases var : head.kind = .var
    · refine ⟨r, n, ?_, .root var⟩
      rw [substituteFirst?, if_pos var]
      rfl
    · obtain ⟨before, child, after, rfl, closed, opened⟩ := exists_first_open var opened
      obtain ⟨g, k, found, replaced⟩ := ih child (by simp) opened
      exact ⟨_, _, substituteFirst?_child id var closed found after, .child var closed replaced⟩

theorem substituteFirst?_eq_none_iff : (substituteFirst? r t n).1 = none ↔ t.Closed := by
  refine ⟨fun none => ?_, fun closed => congrArg Prod.fst (substituteFirst?_closed closed n)⟩
  by_contra opened
  obtain ⟨g, k, found, -⟩ := substituteFirst?_replaces (r := r) opened n
  exact Option.some_ne_none g ((congrArg Prod.fst found).symm.trans none)

/-! Compositions. -/

theorem compose_closed (closed : t.Closed) (n : Nat) : (compose r t n).1 = t := by
  change (substituteFirst? r t n).1.getD t = t
  rw [substituteFirst?_closed closed, Option.getD_none]

theorem compose_replaces (opened : ¬t.Closed) (n : Nat) : Replaces r t (compose r t n).1 := by
  obtain ⟨g, k, found, replaced⟩ := substituteFirst?_replaces (r := r) opened n
  change Replaces r t ((substituteFirst? r t n).1.getD t)
  rwa [found, Option.getD_some]

theorem foldlM_compose_cons (first next : Formula α) (rest : List (Formula α)) (n : Nat) :
    (next :: rest).foldlM compose first n =
      rest.foldlM compose (compose first next n).1 (compose first next n).2 := by
  rw [List.foldlM_cons]
  rfl

end FormulaLab.Formula
