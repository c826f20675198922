import FormulaLab.Proofs.Construction.Calls
import FormulaLab.Proofs.Formula.Renaming

/-! Ids along paths. Formulas share parts, and a shared part has the same ids wherever it stands; but a
node is always built under a new id over parts that are older, so no path from a root meets an id
twice. -/

namespace FormulaLab.Formula

variable {α : Type} {n : Nat} {f : Formula α}

/-- The ids along each path from the root to a leaf. -/
def idPaths : Formula α → List (List String) :=
  fold fun f below => if below.isEmpty then [[f.id]] else below.flatten.map (f.id :: ·)

/-- The node has an id drawn before, which none of its descendants has. -/
structure Ordered (n : Nat) (f : Formula α) : Prop where
  drawn : ∃ k < n, f.id = nodeId k
  apart : ∀ child ∈ f.children, ∀ g ∈ child.nodes, g.id ≠ f.id

/-! Paths and cycles in formulas without a repeated id. -/

theorem idPaths_node (id : String) (head : Head α) (children : List (Formula α)) :
    (node id head children).idPaths =
      if children.isEmpty then [[id]] else (children.flatMap idPaths).map (id :: ·) := by
  rw [idPaths, fold_node, List.isEmpty_map, List.flatMap_def]
  rfl

/-- Ids on a path are ids of nodes. -/
theorem exists_node_of_mem_idPaths {path : List String} (along : path ∈ f.idPaths) :
    ∀ i ∈ path, ∃ g ∈ f.nodes, g.id = i := by
  induction f generalizing path with
  | node id head children ih =>
    have root : ∃ g ∈ (node id head children).nodes, g.id = id := ⟨_, mem_nodes_self _, rfl⟩
    rw [idPaths_node] at along
    split at along
    · obtain rfl := List.mem_singleton.mp along
      exact List.forall_mem_singleton.mpr root
    · obtain ⟨rest, below, rfl⟩ := List.mem_map.mp along
      obtain ⟨child, member, through⟩ := List.mem_flatMap.mp below
      refine List.forall_mem_cons.mpr ⟨root, fun i onward => ?_⟩
      exact exists_nodes_node.mpr (.inr ⟨child, member, ih child member through i onward⟩)

theorem Throughout.idPaths_nodup (ordered : f.Throughout Ordered n) :
    ∀ path ∈ f.idPaths, path.Nodup := by
  induction f with
  | node id head children ih =>
    obtain ⟨root, below⟩ := throughout_node.mp ordered
    intro path along
    rw [idPaths_node] at along
    split at along
    · obtain rfl := List.mem_singleton.mp along
      exact List.nodup_singleton id
    · obtain ⟨rest, later, rfl⟩ := List.mem_map.mp along
      obtain ⟨child, member, through⟩ := List.mem_flatMap.mp later
      refine List.nodup_cons.mpr ⟨fun repeated => ?_, ih child member (below child member) rest through⟩
      obtain ⟨g, within, same⟩ := exists_node_of_mem_idPaths through id repeated
      exact root.apart child member g within same

theorem cycle_not_mem_nodeFaults [Scalar α] (f : Formula α) (i : String) :
    Issue.cycle i ∉ f.nodeFaults := by
  unfold nodeFaults
  split <;> split <;> simp

/-- The search for faults meets no id that it has seen above. -/
theorem Throughout.cycle_not_mem_faults [Scalar α] (ordered : f.Throughout Ordered n)
    {path : List String} (new : ∀ g ∈ f.nodes, g.id ∉ path) (i : String) :
    Issue.cycle i ∉ f.faults path := by
  induction f generalizing path with
  | node id head children ih =>
    obtain ⟨root, below⟩ := throughout_node.mp ordered
    obtain ⟨unseen, later⟩ := forall_nodes_node.mp new
    change id ∉ path at unseen
    rw [faults, if_neg (mt List.contains_iff_mem.mp unseen), faultsAll_eq, List.mem_append, not_or]
    refine ⟨cycle_not_mem_nodeFaults _ i, fun among => ?_⟩
    obtain ⟨child, member, found⟩ := List.mem_flatMap.mp among
    refine ih child member (below child member) ?_ found
    intro g within repeated
    rcases List.mem_cons.mp repeated with same | earlier
    · exact root.apart child member g within same
    · exact later child member g within earlier

/-! New nodes. -/

/-- Over older parts a new id is not met again. -/
theorem ordered_new (head : Head α) {children : List (Formula α)}
    (below : ∀ child ∈ children, child.Throughout Ordered n) :
    Ordered (n + 1) (node (nodeId n) head children) := by
  constructor
  · exact ⟨n, Nat.lt_succ_self n, rfl⟩
  · intro child member g within same
    obtain ⟨k, earlier, drawn⟩ := (below child member g within).drawn
    exact Nat.ne_of_lt earlier (nodeId_injective (drawn.symm.trans same))

theorem ordered_hereditary : Hereditary (Ordered (α := α)) where
  lasts onwards ordered := by
    obtain ⟨k, earlier, drawn⟩ := ordered.drawn
    exact ⟨⟨k, Nat.lt_of_lt_of_le earlier onwards, drawn⟩, ordered.apart⟩
  plain _ _ below := ordered_new _ below
  filled _ _ below := ordered_new _ below

theorem ordered_rebuildable : Rebuildable (Ordered (α := α)) :=
  fun _ _ head _ _ _ _ below => ordered_new head below

variable [Scalar α]

theorem ordered_admissible (c : Call α) (operands : ∀ f ∈ c.operands, f.Throughout Ordered n) :
    c.Admissible Ordered n := by
  cases c with
  | dual a b companions => exact ordered_new _ operands
  | combine mode a b =>
    cases mode with
    | dual => exact ordered_new _ operands
    | add | mul | compose => trivial
  | rebuild f children => exact ordered_new _ (List.forall_mem_cons.mp operands).2
  | applyOnce _ _ | reduce _ _ _ => exact ordered_rebuildable
  | _ => trivial

/-- No formula that calls can make has a cycle. However parts are shared, substituted into one another or
rewritten, no id occurs twice on a path from the root to a leaf, and no cycle is reported. -/
theorem built_acyclic {pool : List (Formula α)} (built : Built (fun _ => True) pool n) :
    ∀ f ∈ pool, (∀ path ∈ f.idPaths, path.Nodup) ∧
      ∀ id, Issue.cycle id ∉ f.structureReport.issues := by
  intro f member
  have ordered := built.throughout ordered_hereditary
    (fun c _ _ operands => ordered_admissible c operands) f member
  refine ⟨ordered.idPaths_nodup, fun id reported => ?_⟩
  rcases List.mem_append.mp reported with fault | imbalance
  · exact ordered.cycle_not_mem_faults (fun _ _ => List.not_mem_nil) id fault
  · obtain ⟨ratio, -, other⟩ := List.mem_map.mp (Option.toList_map ▸ imbalance)
    cases other

/-- A sum of a variable with itself, substituted into itself, has one id at several places. -/
theorem built_acyclic_composed :
    let x : Formula Float := node (nodeId 1) ⟨.var, none, some "x", none⟩ []
    let sum := node (nodeId 2) ⟨.operator, none, some "+", none⟩ [x, x]
    let composed := node (nodeId 3) ⟨.operator, none, some "+", none⟩ [sum, x]
    Built (fun _ => True) [composed, sum, x] 4 ∧ ¬(composed.nodes.map Formula.id).Nodup ∧
      (∀ path ∈ composed.idPaths, path.Nodup) ∧
      ∀ id, Issue.cycle id ∉ composed.structureReport.issues := by
  intro x sum composed
  have variable_built : Built (fun _ => True) [x] 2 :=
    .call (.var "x") (.start 1) trivial fun _ member => absurd member List.not_mem_nil
  have sum_built : Built (fun _ => True) [sum, x] 3 :=
    .call (.binary "+" x x) variable_built trivial (by simp [Call.operands])
  have composed_built : Built (fun _ => True) [composed, sum, x] 4 :=
    .call (.combine .compose sum sum) sum_built trivial (by simp [Call.operands])
  have shared : ¬(composed.nodes.map Formula.id).Nodup := by decide
  exact ⟨composed_built, shared, built_acyclic composed_built composed List.mem_cons_self⟩

end FormulaLab.Formula
