import FormulaLab.Proofs.Rulebook.Pass
import FormulaLab.Rulebook.Standard

/-! What the standard rules make of a node: a constant, one of its operands, or the golden ratio plus
one. Only the square of the golden ratio, a power of two operands, becomes a node that has children. -/

namespace FormulaLab

namespace Formula

variable {α : Type}

/-- Whether the node is a power of two operands. -/
def isPower (f : Formula α) : Bool := f.isOperator "^" && f.children.length == 2

/-- Number of powers of two operands among the nodes. -/
def powerCount (f : Formula α) : Nat := f.nodes.countP isPower

theorem powerCount_node (id : String) (head : Head α) (children : List (Formula α)) :
    (node id head children).powerCount =
      (children.map powerCount).sum + if (node id head children).isPower then 1 else 0 :=
  countP_nodes_node ..

/-- The golden ratio, under its symbol, plus one. -/
def goldenSum [Scalar α] (id left right : String) : Formula α :=
  node id ⟨.operator, none, some "+", none⟩ [
    node left ⟨.constant, some Scalar.golden, some "φ", none⟩ [],
    node right ⟨.constant, some 1, none, none⟩ []]

theorem powerCount_constant (id : String) (v : Option α) (label : Option String) :
    (node id ⟨.constant, v, label, none⟩ []).powerCount = 0 := rfl

theorem powerCount_goldenSum [Scalar α] (id left right : String) :
    (goldenSum id left right : Formula α).powerCount = 0 := rfl

/-- Rebuilding over as many children leaves a power a power. -/
theorem isPower_rebuilt (id id' : String) (head : Head α) {children children' : List (Formula α)}
    (arity : children'.length = children.length) :
    (node id' head children').isPower = (node id head children).isPower := by
  simp only [isPower, isOperator, kind, symbol, Formula.head, Formula.children, arity]

end Formula

namespace Rule

variable {α : Type} [Scalar α] {precision : α} {f : Formula α}

/-- What a standard rule with a given name makes of a node. -/
inductive Outcome (f : Formula α) : String → Formula α → Prop where
  | constant {name : String} (id : String) (v : α) : name ≠ "golden-square" →
      Outcome f name (.node id ⟨.constant, some v, none, none⟩ [])
  | operand {name : String} {g : Formula α} : name ≠ "golden-square" → g ∈ f.children →
      Outcome f name g
  | goldenSum (id left right : String) : f.isPower = true →
      Outcome f "golden-square" (.goldenSum id left right)

theorem fold_outcome {name op : String} {combine : α → α → α} (other : name ≠ "golden-square")
    (applies : (fold name op combine).pattern f = true) (n : Nat) :
    Outcome f name ((fold name op combine).transform f n).1 := by
  obtain ⟨-, operands⟩ := Bool.and_eq_true_iff.mp applies
  obtain ⟨⟨x, y⟩, operands⟩ := Option.isSome_iff_exists.mp operands
  simp only [fold, operands]
  exact .constant _ _ other

theorem otherOperand?_mem {neutral : α} {g : Formula α}
    (found : otherOperand? neutral precision f = some g) : g ∈ f.children := by
  unfold otherOperand? at found
  split at found
  next a b operands =>
    rw [operands]
    split at found
    · cases found
      exact List.mem_cons_of_mem _ List.mem_cons_self
    · split at found
      · cases found
        exact List.mem_cons_self
      · contradiction
  · contradiction

theorem identity_outcome {name op : String} {neutral : α} (other : name ≠ "golden-square")
    (applies : (identity name op neutral precision).pattern f = true) (n : Nat) :
    Outcome f name ((identity name op neutral precision).transform f n).1 := by
  obtain ⟨-, operand⟩ := Bool.and_eq_true_iff.mp applies
  obtain ⟨g, operand⟩ := Option.isSome_iff_exists.mp operand
  simp only [identity, operand]
  exact .operand other (otherOperand?_mem operand)

theorem dualCancel_outcome (n : Nat) :
    Outcome f "dual-cancel" ((dualCancel precision).transform f n).1 :=
  .constant _ _ (by decide)

theorem isPower_of_isGoldenSquare (square : isGoldenSquare precision f = true) :
    f.isPower = true := by
  obtain ⟨power, operands⟩ := Bool.and_eq_true_iff.mp square
  split at operands
  next base exponent children => simp [Formula.isPower, power, children]
  · contradiction

theorem goldenSquare_outcome (applies : (goldenSquare precision).pattern f = true) (n : Nat) :
    Outcome f "golden-square" ((goldenSquare precision).transform f n).1 :=
  .goldenSum _ _ _ (isPower_of_isGoldenSquare applies)

theorem standard_outcome {rule : Rule α} (member : rule ∈ standard precision)
    (applies : rule.pattern f = true) (n : Nat) : Outcome f rule.name (rule.transform f n).1 := by
  simp only [standard, List.mem_cons, List.not_mem_nil, or_false] at member
  rcases member with rfl | rfl | rfl | rfl | rfl | rfl
  · exact fold_outcome (by decide) applies n
  · exact fold_outcome (by decide) applies n
  · exact identity_outcome (by decide) applies n
  · exact identity_outcome (by decide) applies n
  · exact dualCancel_outcome n
  · exact goldenSquare_outcome applies n

end Rule

namespace Rulebook

variable {α : Type} [Scalar α] {precision : α} {f : Formula α}

omit [Scalar α] in
theorem register_last {book : Rulebook α} {rule : Rule α}
    (lowest : ∀ other ∈ book.rules, rule.priority ≤ other.priority) :
    (book.register rule).rules = book.rules ++ [rule] := by
  have before : ∀ other ∈ book.rules, decide (rule.priority ≤ other.priority) = true :=
    fun other member => decide_eq_true (lowest other member)
  rw [register, List.takeWhile_eq_self_iff.mpr before, List.dropWhile_eq_nil_iff.mpr before]

omit [Scalar α] in
/-- Rules registered in descending priority keep their order. -/
theorem foldl_register {book : Rulebook α} {rules : List (Rule α)}
    (descending : (book.rules ++ rules).Pairwise fun first second =>
      second.priority ≤ first.priority) :
    (rules.foldl register book).rules = book.rules ++ rules := by
  induction rules generalizing book with
  | nil => exact (List.append_nil _).symm
  | cons rule rest ih =>
    have lowest : ∀ other ∈ book.rules, rule.priority ≤ other.priority := fun other member =>
      (List.pairwise_append.mp descending).2.2 other member rule List.mem_cons_self
    have last := register_last lowest
    -- The book grows at its end, so the rest stays in order behind it.
    rw [List.append_cons, ← last] at descending
    rw [List.foldl_cons, ih descending, last, List.append_assoc, List.singleton_append]

theorem standard_rules (precision : α) : (standard precision).rules = Rule.standard precision :=
  foldl_register (by simp [empty, Rule.standard, Rule.fold, Rule.identity, Rule.dualCancel,
    Rule.goldenSquare])

theorem standard_match {rule : Rule α}
    (matched : (standard precision).firstMatch? f = some rule) (n : Nat) :
    Rule.Outcome f rule.name (rule.transform f n).1 := by
  obtain ⟨member, applies⟩ := firstMatch?_eq_some matched
  rw [standard_rules] at member
  exact Rule.standard_outcome member applies n

/-- No standard rule applies to a leaf. -/
theorem normal_leaf (id : String) (head : Head α) : (standard precision).Normal (.node id head []) := by
  refine normal_node.mpr ⟨firstMatch?_eq_none.mpr fun rule member => ?_, by simp⟩
  rw [standard_rules, Rule.standard] at member
  simp only [List.mem_cons, List.not_mem_nil, or_false] at member
  rcases member with rfl | rfl | rfl | rfl | rfl | rfl <;> exact Bool.and_eq_false_iff.mpr (.inr rfl)

end Rulebook
end FormulaLab
