import FormulaLab.Formula.Synthesis
import FormulaLab.Proofs.Formula.Arity
import Mathlib.Logic.Relation

/-! Properties that nodes have wherever formulas are built. A property is hereditary if nodes under new
ids have it over children that have it throughout, whether their head is chosen freely or taken over
from a node in which a variable has been replaced. All ways to build formulas out of formulas keep it. -/

namespace FormulaLab

namespace Fresh

variable {β γ δ : Type} {P : Nat → β → Prop} {Q : Nat → γ → Prop} {x : Fresh β} {n : Nat}

/-- From the counter `n` on, ids are drawn upwards, and the result has the property at the counter that
is reached. -/
structure Yields (P : Nat → β → Prop) (x : Fresh β) (n : Nat) : Prop where
  onwards : n ≤ (x n).2
  result : P (x n).2 (x n).1

theorem Yields.pure {a : β} (holds : P n a) : Yields P (pure a) n := ⟨Nat.le_refl n, holds⟩

theorem Yields.bind {next : β → Fresh γ} (first : Yields P x n)
    (second : ∀ a m, n ≤ m → P m a → Yields Q (next a) m) : Yields Q (x >>= next) n := by
  have after := second _ _ first.onwards first.result
  exact ⟨Nat.le_trans first.onwards after.onwards, after.result⟩

theorem Yields.map {f : β → γ} (first : Yields P x n) (second : ∀ a m, P m a → Q m (f a)) :
    Yields Q (f <$> x) n := ⟨first.onwards, second _ _ first.result⟩

/-- What is yielded is what the computation gives. -/
theorem Yields.given (first : Yields P x n) : Yields (fun m a => P m a ∧ a = (x n).1) x n :=
  ⟨first.onwards, first.result, rfl⟩

theorem Yields.mapM {draw : β → Fresh γ} (lasts : ∀ {m k y}, m ≤ k → Q m y → Q k y) {xs : List β}
    (each : ∀ x ∈ xs, ∀ m, n ≤ m → Yields Q (draw x) m) :
    Yields (fun m ys => ys.length = xs.length ∧ ∀ y ∈ ys, Q m y) (xs.mapM draw) n := by
  induction xs generalizing n with
  | nil => exact .pure ⟨rfl, fun _ member => absurd member List.not_mem_nil⟩
  | cons x rest ih =>
    rw [List.forall_mem_cons] at each
    rw [List.mapM_cons]
    refine (each.1 n (Nat.le_refl n)).bind fun y m reached holds => ?_
    have later := ih (n := m) fun x member k beyond =>
      each.2 x member k (Nat.le_trans reached beyond)
    refine later.bind fun ys k beyond others => ?_
    refine .pure ⟨congrArg Nat.succ others.1, List.forall_mem_cons.mpr ⟨?_, others.2⟩⟩
    exact lasts beyond holds

theorem Yields.foldlM {step : γ → β → Fresh γ} {xs : List β}
    (each : ∀ x ∈ xs, ∀ m c, n ≤ m → Q m c → Yields Q (step c x) m) {c : γ} (start : Q n c) :
    Yields Q (xs.foldlM step c) n := by
  induction xs generalizing n c with
  | nil => exact .pure start
  | cons x rest ih =>
    rw [List.forall_mem_cons] at each
    rw [List.foldlM_cons]
    refine (each.1 n c (Nat.le_refl n) start).bind fun d m reached holds => ?_
    refine ih (fun x member k e beyond => ?_) holds
    exact each.2 x member k e (Nat.le_trans reached beyond)

end Fresh

open Fresh (Yields)

namespace Formula

variable {α : Type} {p : Nat → Formula α → Prop} {m n : Nat} {f g r : Formula α}

/-- The formula with its first variable replaced. -/
def Fills (f g : Formula α) : Prop := ∃ replacement n, (substituteFirst? replacement f n).1 = some g

/-- Every node has the property at a counter. -/
def Throughout (p : Nat → Formula α → Prop) (n : Nat) (f : Formula α) : Prop := ∀ g ∈ f.nodes, p n g

/-- A property of nodes, relative to the ids drawn so far, that building formulas keeps. -/
structure Hereditary (p : Nat → Formula α → Prop) : Prop where
  lasts {m n : Nat} {f : Formula α} : m ≤ n → p m f → p n f
  plain {n : Nat} {head : Head α} {children : List (Formula α)} : head.kind ≠ .dual →
    head.Fits children.length → (∀ child ∈ children, Throughout p n child) →
    p (n + 1) (node (nodeId n) head children)
  filled {n : Nat} {id : String} {head : Head α} {children children' : List (Formula α)} :
    p n (node id head children) → List.Forall₂ (Relation.ReflGen Fills) children children' →
    (∀ child ∈ children', Throughout p n child) → p (n + 1) (node (nodeId n) head children')

theorem unrestricted_hereditary : Hereditary fun _ (_ : Formula α) => True :=
  ⟨fun _ _ => trivial, fun _ _ _ => trivial, fun _ _ _ => trivial⟩

theorem throughout_node {id : String} {head : Head α} {children : List (Formula α)} :
    Throughout p n (node id head children) ↔
      p n (node id head children) ∧ ∀ child ∈ children, Throughout p n child := forall_nodes_node

theorem Throughout.part (holds : f.Throughout p n) (part : g ∈ f.nodes) : g.Throughout p n := by
  induction f with
  | node id head children ih =>
    rw [nodes_node, List.mem_cons] at part
    rcases part with rfl | below
    · exact holds
    · obtain ⟨child, member, within⟩ := List.mem_flatMap.mp below
      exact ih child member ((throughout_node.mp holds).2 child member) within

theorem Throughout.child (holds : f.Throughout p n) : ∀ c ∈ f.children, c.Throughout p n := by
  cases f with
  | node id head children => exact (throughout_node.mp holds).2

/-! Replacing variables. -/

theorem substituteFirstAmong?_fills {fs gs : List (Formula α)}
    (found : (substituteFirstAmong? r fs n).1 = some gs) :
    List.Forall₂ (Relation.ReflGen Fills) fs gs := by
  induction fs generalizing gs n with
  | nil => exact absurd found (Option.some_ne_none gs).symm
  | cons f rest ih =>
    unfold substituteFirstAmong? at found
    simp only [bind, StateT.bind] at found
    cases first : substituteFirst? r f n with
    | mk result m =>
      rw [first] at found
      cases result with
      | some g =>
        cases found
        refine .cons (.single ⟨r, n, congrArg Prod.fst first⟩) ?_
        exact List.forall₂_same.mpr fun _ _ => .refl
      | none =>
        obtain ⟨among, later, rfl⟩ := Option.map_eq_some_iff.mp found
        exact .cons .refl (ih later)

/-- In a list one formula at most is replaced, and the others stay. -/
theorem substituteFirstAmong?_yields {fs : List (Formula α)}
    (each : ∀ f ∈ fs, ∀ m, n ≤ m → f.Throughout p m ∧
      Yields (fun k found => ∀ g ∈ found, Throughout p k g) (substituteFirst? r f) m) :
    Yields (fun m found => ∀ gs ∈ found, ∀ g ∈ gs, Throughout p m g)
      (substituteFirstAmong? r fs) n := by
  induction fs generalizing n with
  | nil => exact .pure fun _ none => absurd none (Option.not_mem_none _)
  | cons f rest ih =>
    rw [List.forall_mem_cons] at each
    unfold substituteFirstAmong?
    refine (each.1 n (Nat.le_refl n)).2.bind fun found m reached holds => ?_
    cases found with
    | some g =>
      refine .pure fun gs same => ?_
      cases same
      rw [List.forall_mem_cons]
      exact ⟨holds g rfl, fun f member => (each.2 f member m reached).1⟩
    | none =>
      have later := ih (n := m) fun f member k beyond =>
        each.2 f member k (Nat.le_trans reached beyond)
      refine later.bind fun among k beyond others => .pure fun gs same => ?_
      obtain ⟨gs, found, rfl⟩ := Option.map_eq_some_iff.mp same
      rw [List.forall_mem_cons]
      exact ⟨(each.1 k (Nat.le_trans reached beyond)).1, others gs found⟩

section Building

variable (hereditary : Hereditary p)
include hereditary

theorem Hereditary.throughout (onwards : m ≤ n) (holds : f.Throughout p m) : f.Throughout p n :=
  fun g member => hereditary.lasts onwards (holds g member)

theorem Hereditary.build_yields {head : Head α} {children : List (Formula α)}
    (made : p (n + 1) (node (nodeId n) head children))
    (below : ∀ child ∈ children, child.Throughout p n) :
    Yields (Throughout p) (build head children) n := by
  refine ⟨Nat.le_succ n, throughout_node.mpr ⟨made, fun child member => ?_⟩⟩
  exact hereditary.throughout (Nat.le_succ n) (below child member)

theorem Hereditary.plain_yields {head : Head α} {children : List (Formula α)}
    (plain : head.kind ≠ .dual) (fits : head.Fits children.length)
    (below : ∀ child ∈ children, child.Throughout p n) :
    Yields (Throughout p) (build head children) n :=
  hereditary.build_yields (hereditary.plain plain fits below) below

theorem Hereditary.leaf_yields {head : Head α} (plain : head.kind ≠ .dual) (fits : head.Fits 0) :
    Yields (Throughout p) (build head []) n :=
  hereditary.plain_yields plain fits fun _ member => absurd member List.not_mem_nil

theorem Hereditary.binary_yields (op : String) (left : f.Throughout p n) (right : g.Throughout p n) :
    Yields (Throughout p) (binary op f g) n := by
  refine hereditary.plain_yields (fun same => Kind.noConfusion same) (.inr rfl) ?_
  rw [List.forall_mem_cons, List.forall_mem_singleton]
  exact ⟨left, right⟩

theorem Hereditary.substituteFirst?_yields (replacement : r.Throughout p n)
    (holds : f.Throughout p n) :
    Yields (fun m found => ∀ g ∈ found, Throughout p m g) (substituteFirst? r f) n := by
  induction f generalizing n with
  | node id head children ih =>
    obtain ⟨root, below⟩ := throughout_node.mp holds
    unfold substituteFirst?
    split
    · refine .pure fun g same => ?_
      cases same
      exact replacement
    · have each : ∀ f ∈ children, ∀ m, n ≤ m → f.Throughout p m ∧
          Yields (fun k found => ∀ g ∈ found, Throughout p k g) (substituteFirst? r f) m := by
        intro f member m onwards
        have lasting := hereditary.throughout onwards (below f member)
        exact ⟨lasting, ih f member (hereditary.throughout onwards replacement) lasting⟩
      refine (substituteFirstAmong?_yields each).given.bind fun found m onwards drawn => ?_
      cases found with
      | none => exact .pure fun _ none => absurd none (Option.not_mem_none _)
      | some children' =>
        have touched := substituteFirstAmong?_fills drawn.2.symm
        have made := hereditary.filled (hereditary.lasts onwards root) touched (drawn.1 _ rfl)
        refine (hereditary.build_yields made (drawn.1 _ rfl)).map fun g k built h same => ?_
        cases same
        exact built

theorem Hereditary.compose_yields (inner : f.Throughout p n) (outer : g.Throughout p n) :
    Yields (Throughout p) (compose f g) n := by
  refine (hereditary.substituteFirst?_yields inner outer).bind fun found m onwards holds => .pure ?_
  cases found with
  | none => exact hereditary.throughout onwards outer
  | some h => exact holds h rfl

theorem Hereditary.chain_yields {fs : List (Formula α)} {x : Fresh (Formula α)}
    (chained : chain fs = .ok x) (each : ∀ f ∈ fs, f.Throughout p n) :
    Yields (Throughout p) x n := by
  cases fs with
  | nil => contradiction
  | cons first rest =>
    cases chained
    rw [List.forall_mem_cons] at each
    refine .foldlM (fun next member m inner onwards holds => ?_) each.1
    exact hereditary.compose_yields holds (hereditary.throughout onwards (each.2 next member))

theorem Hereditary.labeledConstant_yields (v : α) (label : String) :
    Yields (Throughout p) (labeledConstant v label) n :=
  hereditary.leaf_yields (fun same => Kind.noConfusion same) ⟨rfl, rfl⟩

variable [Scalar α]

theorem Hereditary.combine_yields (mode : SynthesisMode) (left : f.Throughout p n)
    (right : g.Throughout p n)
    (paired : mode = .dual → p (n + 1) (node (nodeId n) ⟨.dual, none, some "dual",
      some ⟨f.closedValue.getD 0, g.closedValue.getD 0⟩⟩ [f, g])) :
    Yields (Throughout p) (combine mode f g) n := by
  cases mode with
  | add => exact hereditary.binary_yields "+" left right
  | mul => exact hereditary.binary_yields "*" left right
  | compose => exact hereditary.compose_yields left right
  | dual =>
    refine hereditary.build_yields (paired rfl) ?_
    rw [List.forall_mem_cons, List.forall_mem_singleton]
    exact ⟨left, right⟩

theorem Hereditary.halfTurnScaled_yields (holds : f.Throughout p n) :
    Yields (Throughout p) (halfTurnScaled f) n := by
  refine (hereditary.labeledConstant_yields _ "π").bind fun factor m onwards made => ?_
  exact hereditary.binary_yields "*" (hereditary.throughout onwards holds) made

theorem Hereditary.goldenScaled_yields (turns : Nat) (holds : f.Throughout p n) :
    Yields (Throughout p) (goldenScaled turns f) n := by
  induction turns generalizing f n with
  | zero => exact .pure holds
  | succ turns ih =>
    unfold goldenScaled
    refine (hereditary.labeledConstant_yields _ "φ").bind fun factor m onwards made => ?_
    refine (hereditary.binary_yields "*" (hereditary.throughout onwards holds) made).bind ?_
    exact fun product k _ scaled => ih scaled

end Building
end Formula
end FormulaLab
