import FormulaLab.Proofs.Rulebook.Meaning
import FormulaLab.Proofs.Rulebook.Outcome
import FormulaLab.Settings.Basic

/-! Where rewriting can lose a value. Each standard rule gives a node that has a value a replacement
that has one, but not the same one where a constant only has to be near its target. The changed value
may lie outside the domain of an operation above it, and only there is the value of a formula lost. -/

namespace FormulaLab

open Scalar (Absorbing)

namespace Rule

section

variable {α : Type} [Scalar α]

/-- Every node that has a value and to which the rule applies has a replacement with a value. -/
def KeepsDefined (rule : Rule α) : Prop :=
  ∀ f : Formula α, rule.pattern f = true → ∀ (env : Environment α) (n : Nat),
    (f.evaluate env).isSome → ((rule.transform f n).1.evaluate env).isSome

theorem KeepsValue.keepsDefined {rule : Rule α} (keeps : rule.KeepsValue) : rule.KeepsDefined := by
  intro f applies env n defined
  rwa [keeps f applies env n]

theorem identity_keepsDefined (name op : String) (neutral precision : α) :
    (identity name op neutral precision).KeepsDefined := by
  intro f applies env n defined
  obtain ⟨named, operand⟩ := Bool.and_eq_true_iff.mp applies
  obtain ⟨g, operand⟩ := Option.isSome_iff_exists.mp operand
  simp only [identity, operand]
  exact Formula.operand_isSome named defined (otherOperand?_mem operand)

end

theorem dualCancel_keepsDefined (precision : Float) : (dualCancel precision).KeepsDefined := by
  intro f applies env n defined
  have zero : ((dualCancel precision).transform f n).1.evaluate env = some 0 :=
    (Formula.evaluate_constant rfl rfl).trans (if_neg (by decide))
  rw [zero]
  rfl

theorem goldenSquare_keepsDefined (precision : Float) : (goldenSquare precision).KeepsDefined := by
  intro f applies env n defined
  have sum : ((goldenSquare precision).transform f n).1.evaluate env = some (Scalar.golden + 1) := by
    have left : Formula.evaluate env (.node (nodeId n) ⟨.constant, some Scalar.golden, some "φ", none⟩
        []) = some (Scalar.golden : Float) :=
      (Formula.evaluate_constant rfl rfl).trans (if_neg (by decide))
    have right : Formula.evaluate env (.node (nodeId (n + 1)) ⟨.constant, some 1, none, none⟩ []) =
        some (1 : Float) :=
      (Formula.evaluate_constant rfl rfl).trans (if_neg (by decide))
    have plus : Operator.ofSymbol? "+" = some .plus := rfl
    refine (Formula.evaluate_operator plus rfl).trans ?_
    change ((Formula.allDefined [Formula.evaluate env _, Formula.evaluate env _]).bind
      Operator.plus.apply).filter (!Scalar.isNaN ·) = _
    rw [left, right]
    rfl
  rw [sum]
  rfl

theorem standard_keepsDefined (precision : Float) :
    ∀ rule ∈ standard precision, rule.KeepsDefined := by
  intro rule member
  have folds := folding_keepsValue (α := Float)
  simp only [folding, List.forall_mem_cons] at folds
  simp only [standard, List.mem_cons, List.not_mem_nil, or_false] at member
  rcases member with rfl | rfl | rfl | rfl | rfl | rfl
  · exact folds.1.keepsDefined
  · exact folds.2.1.keepsDefined
  · exact identity_keepsDefined _ _ 0 precision
  · exact identity_keepsDefined _ _ 1 precision
  · exact dualCancel_keepsDefined precision
  · exact goldenSquare_keepsDefined precision

end Rule

namespace Rulebook

variable {α : Type} [Scalar α] {book : Rulebook α} {env : Environment α}

/-- Passes over the operands of a node take its operation out of its domain: no operand loses its
value, but some rule other than the folding ones fires, and the operation has a result on the values
before the passes and none on those after them. -/
structure LeavesDomain (book : Rulebook α) (env : Environment α) (f : Formula α)
    (passes : List (Pass α)) : Prop where
  results : List.Forall₂ (fun child pass => ∃ m, pass = (book.applyOnce child m).1) f.children passes
  operands : List.Forall₂ (fun child pass => (child.evaluate env).isSome →
    (pass.output.evaluate env).isSome) f.children passes
  before : (Formula.evaluateNode env f (f.children.map (Formula.evaluate env))).isSome
  after : Formula.evaluateNode env f (passes.map (·.output.evaluate env)) = none
  inexact : ∃ rule ∈ book.rules, rule ∉ Rule.folding ∧ rule.name ∈ passes.flatMap (·.fired)

/-- Where only folding rules fire, the values of the operands stay as they are. -/
theorem exact_or_inexact [Absorbing α] (book : Rulebook α) (passes : List (Pass α)) :
    (∀ pass ∈ passes, book.Exact pass) ∨
      ∃ rule ∈ book.rules, rule ∉ Rule.folding ∧ rule.name ∈ passes.flatMap (·.fired) := by
  refine or_iff_not_imp_right.mpr fun none pass member rule registered name => ?_
  refine Rule.folding_keepsValue rule (Classical.byContradiction fun other => none ?_)
  exact ⟨rule, registered, other, List.mem_flatMap.mpr ⟨pass, member, name⟩⟩

variable [Absorbing α] {id : String} {head : Head α} {children : List (Formula α)}
  {passes : List (Pass α)}

/-- Rebuilding a node over the results of passes keeps its value, or its operation leaves its domain. -/
theorem rebuilt_isSome (id' : String) (defined : (Formula.evaluate env (.node id head children)).isSome)
    (results : List.Forall₂ (fun child pass => ∃ m, pass = (book.applyOnce child m).1) children passes)
    (operands : List.Forall₂ (fun child pass => (child.evaluate env).isSome →
      (pass.output.evaluate env).isSome) children passes) :
    (Formula.evaluate env (.node id' head (passes.map (·.output)))).isSome ∨
      book.LeavesDomain env (.node id head children) passes := by
  refine or_iff_not_imp_left.mpr fun undefined => ?_
  rw [Option.not_isSome_iff_eq_none] at undefined
  obtain exact | inexact := exact_or_inexact book passes
  · have same : (passes.map (·.output)).map (Formula.evaluate env) =
        children.map (Formula.evaluate env) := by
      refine outputs_evaluate (results.imp ?_) exact
      rintro child _ ⟨m, rfl⟩
      exact applyOnce_evaluate env child m
    rw [Formula.evaluate_congr same] at undefined
    exact absurd undefined (Option.isSome_iff_ne_none.mp defined)
  · rw [Formula.evaluate_node] at defined
    rw [Formula.evaluate_node, List.map_map] at undefined
    exact ⟨results, operands, defined, undefined, inexact⟩

/-- A pass keeps a value, or it takes the operation of some node out of its domain. -/
theorem applyOnce_isSome (keeps : ∀ rule ∈ book.rules, rule.KeepsDefined) (f : Formula α) (n : Nat)
    (defined : (f.evaluate env).isSome) :
    ((book.applyOnce f n).1.output.evaluate env).isSome ∨
      ∃ g ∈ f.nodes, ∃ passes, book.LeavesDomain env g passes := by
  induction f generalizing n with
  | node id head children ih =>
    refine or_iff_not_imp_right.mpr fun stays => ?_
    obtain ⟨passes, current, results, built, tried⟩ := applyOnce_node_cases book id head children n
    have each : ∀ child ∈ children, ∀ m, (child.evaluate env).isSome →
        ((book.applyOnce child m).1.output.evaluate env).isSome := by
      intro child member m valued
      refine (ih child member m valued).resolve_right fun ⟨g, below, leaves⟩ => stays ⟨g, ?_, leaves⟩
      rw [Formula.nodes_node]
      exact List.mem_cons_of_mem _ (List.mem_flatMap.mpr ⟨child, member, below⟩)
    have operands : List.Forall₂ (fun child pass => (child.evaluate env).isSome →
        (pass.output.evaluate env).isSome) children passes :=
      ((List.forall₂_and_left _ _).mpr ⟨each, results⟩).imp fun _ _ ⟨valued, m, same⟩ =>
        same ▸ valued m
    have standing : (current.evaluate env).isSome := by
      obtain ⟨-, rfl⟩ | ⟨-, k, rfl⟩ := built
      · exact defined
      · refine (rebuilt_isSome (nodeId k) defined results operands).resolve_right fun leaves => ?_
        exact stays ⟨_, by rw [Formula.nodes_node]; exact List.mem_cons_self, passes, leaves⟩
    generalize (book.applyOnce (.node id head children) n).1 = pass at tried ⊢
    cases tried with
    | kept unmatched => exact standing
    | replaced rule m matched =>
      obtain ⟨registered, applies⟩ := firstMatch?_eq_some matched
      exact keeps rule registered current applies env m standing

/-- Repeated passes keep a value as long as none takes an operation out of its domain. -/
theorem advance_isSome (keeps : ∀ rule ∈ book.rules, rule.KeepsDefined) {s : Formula α × Nat}
    (defined : (s.1.evaluate env).isSome) (k : Nat) :
    ((book.advance^[k] s).1.evaluate env).isSome ∨
      ∃ i < k, ∃ g ∈ (book.advance^[i] s).1.nodes, ∃ passes, book.LeavesDomain env g passes := by
  induction k with
  | zero => exact .inl defined
  | succ k ih =>
    obtain standing | ⟨i, before, leaves⟩ := ih
    · rw [advance_iterate_succ]
      refine (applyOnce_isSome keeps _ _ standing).imp id fun leaves => ?_
      exact ⟨k, Nat.lt_succ_self k, leaves⟩
    · exact .inr ⟨i, Nat.lt_succ_of_lt before, leaves⟩

/-- Reduction by the standard rules loses a value only where an operation leaves its domain. At every
precision each rule keeps defined what it replaces; and for every formula with a value and every bound
the output has a value, unless in one of the recorded passes rules other than folding change the
operands of some node so that its operation has no result any more. -/
theorem reduce_isSome_or_leavesDomain (precision accuracy : Float) {f : Formula Float}
    {env : Environment Float} (defined : (f.evaluate env).isSome) (bound n : Nat) :
    let r := ((standard precision).reduce accuracy bound f n).1
    (∀ rule ∈ (standard precision).rules, rule.KeepsDefined) ∧
      ((r.output.evaluate env).isSome ∨
        ∃ i < r.steps.length, ∃ g ∈ ((standard precision).advance^[i] (f, n)).1.nodes, ∃ passes,
          (standard precision).LeavesDomain env g passes) := by
  have keeps : ∀ rule ∈ (standard precision).rules, rule.KeepsDefined := by
    rw [standard_rules]
    exact Rule.standard_keepsDefined precision
  have faithful := iterate_faithful (standard precision) bound 0 (f, n)
  rw [reduce_eq accuracy bound (f, n)]
  dsimp only
  rw [faithful.reached]
  exact ⟨keeps, advance_isSome keeps defined _⟩

/-- One over a dual whose parts nearly cancel. -/
def nearlyCancelled : Formula Float :=
  ((do
    let parts ← Formula.dual (← Formula.constant 1e-11) (← Formula.constant 0) ⟨1e-11, 0⟩
    Formula.binary "/" (← Formula.constant 1) parts : Fresh (Formula Float)) 1).1

/-- The divisor counts as cancelled at the standard precision, and the quotient has no value then. -/
theorem nearlyCancelled_loses_value :
    let settings : Settings Float := .standard
    let r := ((standard settings.precision).reduce settings.precision settings.maxReduceSteps
      nearlyCancelled 5).1
    settings.fault?.isNone ∧ nearlyCancelled.closedValue.isSome ∧ ¬r.output.closedValue.isSome := by
  decide +kernel

theorem reduce_isSome_or_leavesDomain_quotient :
    (nearlyCancelled.evaluate fun _ => none).isSome ∧
      ∃ i < ((standard (1e-10 : Float)).reduce 1e-10 100 nearlyCancelled 5).1.steps.length,
        ∃ g ∈ ((standard 1e-10).advance^[i] (nearlyCancelled, 5)).1.nodes, ∃ passes,
          (standard 1e-10).LeavesDomain (fun _ => none) g passes := by
  have defined : (nearlyCancelled.evaluate fun _ => none).isSome := by decide +kernel
  obtain ⟨-, kept | lost⟩ := reduce_isSome_or_leavesDomain 1e-10 1e-10 defined 100 5
  · exact absurd kept (by decide +kernel)
  · exact ⟨defined, lost⟩

end Rulebook
end FormulaLab
