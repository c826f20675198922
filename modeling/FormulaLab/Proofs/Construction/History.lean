import FormulaLab.Proofs.Construction.Calls
import FormulaLab.Proofs.Construction.Replacement

/-! Histories of formulas. Calls are recorded with the counters at which they are made, so that a formula
can be traced to the calls that it came about by. A substitution exchanges every node on the path to the
first variable of its target for a new one over the children that it has had, one of them exchanged in the
same way, and leaves all other nodes. -/

namespace FormulaLab.Formula

open Relation (ReflGen)

variable {α : Type} {d e f g h r t : Formula α} {n : Nat}

/-! Paths to the first variable. -/

/-- The second formula is on the path from the root of the first one to its first variable. -/
inductive Leads : Formula α → Formula α → Prop where
  | root {t : Formula α} : ¬t.Closed → Leads t t
  | child {id : String} {head : Head α} {before after : List (Formula α)} {child d : Formula α} :
      head.kind ≠ .var → (∀ f ∈ before, f.Closed) → Leads child d →
      Leads (node id head (before ++ child :: after)) d

theorem Leads.opened (leads : t.Leads d) : ¬d.Closed := by
  induction leads with
  | root opened => exact opened
  | child _ _ _ ih => exact ih

theorem Leads.trans (first : t.Leads d) (second : d.Leads e) : t.Leads e := by
  induction first with
  | root _ => exact second
  | child plain closed _ ih => exact .child plain closed (ih second)

/-- Nodes of a formula in which a variable was replaced are nodes of the replacement, nodes that were there
before, or new ones for those on the path to the variable. -/
theorem mem_nodes_of_replaced {k : Nat} (replaced : substituteFirst? r t n = (some h, k)) :
    ∀ e ∈ h.nodes, e ∈ r.nodes ∨ e ∈ t.nodes ∨
      ∃ d ∈ t.nodes, d.kind ≠ .var ∧ t.Leads d ∧ (substituteFirst? r d n).1 = some e := by
  induction t generalizing h k with
  | node id head children ih =>
    intro e within
    by_cases var : head.kind = .var
    · rw [substituteFirst?, if_pos var] at replaced
      cases replaced
      exact .inl within
    have opened : ¬(node id head children).Closed := by
      intro closed
      rw [substituteFirst?_closed closed] at replaced
      cases replaced
    obtain ⟨before, child, after, rfl, closed, opened'⟩ := exists_first_open var opened
    obtain ⟨g, m, found, -⟩ := substituteFirst?_replaces (r := r) opened' n
    have made := substituteFirst?_child id var closed found after
    obtain rfl : node (nodeId m) head (before ++ g :: after) = h :=
      Option.some.inj (congrArg Prod.fst (made.symm.trans replaced))
    rw [nodes_node, List.flatMap_append, List.flatMap_cons] at within ⊢
    simp only [List.mem_cons, List.mem_append] at within ⊢
    obtain rfl | early | inner | late := within
    · exact .inr (.inr ⟨_, .inl rfl, var, .root opened, congrArg Prod.fst made⟩)
    · exact .inr (.inl (.inr (.inl early)))
    · obtain new | old | ⟨d, part, plain, leads, exchanged⟩ := ih child (by simp) found e inner
      · exact .inl new
      · exact .inr (.inl (.inr (.inr (.inl old))))
      · exact .inr (.inr ⟨d, .inr (.inr (.inl part)), plain, .child var closed leads, exchanged⟩)
    · exact .inr (.inl (.inr (.inr (.inr late))))

/-! Substitutions. -/

/-- A replacement for the first variable of a formula, and the counter that it starts at. -/
structure Substitution (α : Type) where
  replacement : Formula α
  target : Formula α
  start : Nat

/-- The node is on the path to the variable that is replaced, and the new formula comes in its place. -/
def Substitution.Exchanges (s : Substitution α) (d e : Formula α) : Prop :=
  s.target.Leads d ∧ (substituteFirst? s.replacement d s.start).1 = some e

/-- A node that is no variable keeps its head, and its children stay or are exchanged too. -/
theorem Substitution.Exchanges.node {s : Substitution α} (exchanged : s.Exchanges d e)
    (plain : d.kind ≠ .var) :
    e.head = d.head ∧ List.Forall₂ (ReflGen s.Exchanges) d.children e.children := by
  obtain ⟨leads, found⟩ := exchanged
  cases d with
  | node id head children =>
    change head.kind ≠ .var at plain
    obtain ⟨before, child, after, rfl, closed, opened⟩ := exists_first_open plain leads.opened
    obtain ⟨g, k, replaced, -⟩ := substituteFirst?_replaces (r := s.replacement) opened s.start
    rw [substituteFirst?_child id plain closed replaced after] at found
    cases found
    have same (fs : List (Formula α)) : List.Forall₂ (ReflGen s.Exchanges) fs fs :=
      List.forall₂_same.mpr fun _ _ => .refl
    have below : s.Exchanges child g :=
      ⟨leads.trans (.child plain closed (.root opened)), congrArg Prod.fst replaced⟩
    exact ⟨rfl, List.rel_append (same before) (.cons (.single below) (same after))⟩

/-- The substitutions of a chain of compositions that goes on from `inner`. -/
def compositions : Formula α → List (Formula α) → Nat → List (Substitution α)
  | _, [], _ => []
  | inner, outer :: rest, n =>
    ⟨inner, outer, n⟩ :: compositions (compose inner outer n).1 rest (compose inner outer n).2

/-- The substitutions that a call makes, other than by rewriting. -/
def Call.substitutions : Call α → Nat → List (Substitution α)
  | combine .compose inner outer, n => [⟨inner, outer, n⟩]
  | chain (first :: rest), n => compositions first rest n
  | substitute replacement target, n => [⟨replacement, target, n⟩]
  | _, _ => []

/-! Sessions. -/

/-- Calls and the counters at which they were made, the latest first. -/
abbrev History (α : Type) := List (Call α × Nat)

/-- One of the calls made a substitution in which the one formula was exchanged for the other. -/
def History.Exchanges (history : History α) (d e : Formula α) : Prop :=
  ∃ made ∈ history, ∃ s ∈ made.1.substitutions made.2, s.Exchanges d e

theorem History.Exchanges.opened {history : History α} (exchanged : history.Exchanges d e) :
    ¬d.Closed := by
  obtain ⟨_, _, _, _, leads, _⟩ := exchanged
  exact leads.opened

theorem History.Exchanges.mono {earlier later : History α} (within : earlier ⊆ later)
    (exchanged : earlier.Exchanges d e) : later.Exchanges d e := by
  obtain ⟨made, member, exchanged⟩ := exchanged
  exact ⟨made, within member, exchanged⟩

theorem History.Exchanges.node {history : History α} (exchanged : history.Exchanges d e)
    (plain : d.kind ≠ .var) :
    e.head = d.head ∧ List.Forall₂ (ReflGen history.Exchanges) d.children e.children := by
  obtain ⟨made, member, s, substitution, exchanged⟩ := exchanged
  obtain ⟨head, children⟩ := exchanged.node plain
  refine ⟨head, children.imp fun _ _ kept => kept.mono fun _ _ exchanged => ?_⟩
  exact ⟨made, member, s, substitution, exchanged⟩

variable [Scalar α] {allowed : Call α → Prop} {history : History α} {pool : List (Formula α)}

/-- Formulas at hand and the number of ids drawn, with the calls made so far. -/
inductive Session (allowed : Call α → Prop) : History α → List (Formula α) → Nat → Prop where
  | start (n : Nat) : Session allowed [] [] n
  | part {history : History α} {pool : List (Formula α)} {n : Nat} {f g : Formula α} :
      Session allowed history pool n → f ∈ pool → g ∈ f.nodes → Session allowed history (g :: pool) n
  | call {history : History α} {pool : List (Formula α)} {n : Nat} (c : Call α) :
      Session allowed history pool n → allowed c → (∀ f ∈ c.operands, f ∈ pool) →
      Session allowed ((c, n) :: history) ((c.perform n).1.toList ++ pool) (c.perform n).2

/-- The formulas that can be made are those at hand after some history. -/
theorem built_iff_exists_session :
    Built allowed pool n ↔ ∃ history, Session allowed history pool n := by
  constructor
  · intro built
    induction built with
    | start n => exact ⟨[], .start n⟩
    | part _ member part ih =>
      obtain ⟨history, session⟩ := ih
      exact ⟨history, session.part member part⟩
    | call c _ permitted operands ih =>
      obtain ⟨history, session⟩ := ih
      exact ⟨_, session.call c permitted operands⟩
  · rintro ⟨history, session⟩
    induction session with
    | start n => exact .start n
    | part _ member part ih => exact ih.part member part
    | call c _ permitted operands ih => exact ih.call c permitted operands

/-- What calls were made of stays at hand. -/
theorem Session.operands_mem (session : Session allowed history pool n) :
    ∀ made ∈ history, ∀ f ∈ made.1.operands, f ∈ pool := by
  induction session with
  | start => exact fun _ member => absurd member List.not_mem_nil
  | part _ _ _ ih => exact fun made member f operand => List.mem_cons_of_mem _ (ih made member f operand)
  | call c _ _ operands ih =>
    refine List.forall_mem_cons.mpr ⟨fun f operand => ?_, fun made member f operand => ?_⟩
    · exact List.mem_append_right _ (operands f operand)
    · exact List.mem_append_right _ (ih made member f operand)

end FormulaLab.Formula
