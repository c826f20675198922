import FormulaLab.Formula.Basic
import Mathlib

/-! The nodes of a formula. A property of all nodes is one of the root and of the nodes below the
children, and a count of nodes adds up over the children. -/

namespace FormulaLab.Formula

variable {α : Type}

/-- The root and its descendants in preorder. -/
def nodes : Formula α → List (Formula α) := fold fun f below => f :: below.flatten

@[simp] theorem nodes_node (id : String) (head : Head α) (children : List (Formula α)) :
    (node id head children).nodes = node id head children :: children.flatMap nodes := by
  rw [nodes, fold_node, List.flatMap_def]

theorem forall_nodes_node {p : Formula α → Prop} {id : String} {head : Head α}
    {children : List (Formula α)} :
    (∀ g ∈ (node id head children).nodes, p g) ↔
      p (node id head children) ∧ ∀ child ∈ children, ∀ g ∈ child.nodes, p g := by
  simp only [nodes_node, List.forall_mem_cons, List.forall_mem_flatMap]

theorem mem_nodes_self (f : Formula α) : f ∈ f.nodes := by
  cases f with
  | node id head children =>
    rw [nodes_node]
    exact List.mem_cons_self

theorem exists_nodes_node {p : Formula α → Prop} {id : String} {head : Head α}
    {children : List (Formula α)} :
    (∃ g ∈ (node id head children).nodes, p g) ↔
      p (node id head children) ∨ ∃ child ∈ children, ∃ g ∈ child.nodes, p g := by
  rw [nodes_node, List.exists_mem_cons_iff]
  refine or_congr_right ⟨?_, ?_⟩
  · rintro ⟨g, below, holds⟩
    obtain ⟨child, member, part⟩ := List.mem_flatMap.mp below
    exact ⟨child, member, g, part, holds⟩
  · rintro ⟨child, member, g, part, holds⟩
    exact ⟨g, List.mem_flatMap.mpr ⟨child, member, part⟩, holds⟩

theorem countP_nodes_node (p : Formula α → Bool) (id : String) (head : Head α)
    (children : List (Formula α)) :
    (node id head children).nodes.countP p =
      (children.map fun child => child.nodes.countP p).sum
        + if p (node id head children) then 1 else 0 := by
  rw [nodes_node, List.countP_cons, List.countP_flatMap]
  rfl

/-- The root and its descendants, every node after those below it. -/
def postorder : Formula α → List (Formula α) := fold fun f below => below.flatten ++ [f]

@[simp] theorem postorder_node (id : String) (head : Head α) (children : List (Formula α)) :
    (node id head children).postorder = children.flatMap postorder ++ [node id head children] := by
  rw [postorder, fold_node, List.flatMap_def]

theorem postorder_eq (f : Formula α) : f.postorder = f.children.flatMap postorder ++ [f] := by
  cases f with
  | node id head children => exact postorder_node id head children

/-- Both orders list the same nodes. -/
theorem postorder_perm (f : Formula α) : f.postorder.Perm f.nodes := by
  induction f with
  | node id head children ih =>
    rw [nodes_node, postorder_node]
    exact List.perm_append_comm.trans (.cons _ (List.Perm.flatMap_left children ih))

/-! Measures that add up over the nodes. -/

/-- Every node adds the weight of its kind to what its children amount to. -/
def Additive (measure : Formula α → Nat) (weight : Kind → Nat) : Prop :=
  ∀ (id : String) (head : Head α) (children : List (Formula α)),
    measure (node id head children) = (children.map measure).sum + weight head.kind

theorem foldr_add (xs : List Nat) (start : Nat) : xs.foldr (· + ·) start = xs.sum + start := by
  induction xs with
  | nil => exact (Nat.zero_add start).symm
  | cons x xs ih => rw [List.foldr_cons, ih, List.sum_cons, Nat.add_assoc]

theorem nodeCount_additive : Additive (nodeCount (α := α)) fun _ => 1 := by
  intro id head children
  rw [nodeCount, fold_node, foldr_add]

theorem nodeCount_eq (f : Formula α) : f.nodeCount = f.nodes.length := by
  induction f with
  | node id head children ih =>
    rw [nodeCount_additive, nodes_node, List.length_cons, List.length_flatMap, List.map_congr_left ih]

end FormulaLab.Formula
