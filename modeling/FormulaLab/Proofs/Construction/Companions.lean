import FormulaLab.Proofs.Construction.History
import FormulaLab.Scalar.Binary64

/-! Companions of duals. A dual that is synthesised carries the closed values of the two formulas that
the call was given, and goes on carrying them when later calls replace a variable in it. A formula without
variables is not replaced, and one with variables counted as zero; so a side of a dual tells the value of
its formula, or it is zero still from the time before a variable was replaced. -/

namespace FormulaLab.Formula

open Relation (ReflGen ReflTransGen TransGen)

variable {α : Type} {id : String} {head : Head α} {children : List (Formula α)}
  {a b f g present r t : Formula α} {n : Nat} {pool : List (Formula α)} {p : Formula α → Prop}

/-- Calls by which a dual is made in one way only, by combination: leaves, operators and functions,
combinations, chains and scaling. -/
def Call.Synthesizes : Call α → Prop
  | constant _ | labeledConstant _ _ | var _ | unary _ _ | binary _ _ _ | function _ _ => True
  | combine _ _ _ | chain _ | halfTurnScaled _ | goldenScaled _ _ => True
  | dual _ _ _ | rebuild _ _ | substitute _ _ | applyOnce _ _ | reduce _ _ _ => False

theorem Call.Synthesizes.complete {c : Call α} (synthesizes : c.Synthesizes) : c.Complete := by
  cases c with
  | rebuild _ _ => exact synthesizes.elim
  | _ => trivial

/-! Duals in what is made. -/

/-- Every dual in the formula has the property. -/
def EveryDual (p : Formula α → Prop) (f : Formula α) : Prop := ∀ g ∈ f.nodes, g.kind = .dual → p g

theorem everyDual_node (other : head.kind ≠ .dual) :
    EveryDual p (node id head children) ↔ ∀ child ∈ children, child.EveryDual p := by
  refine forall_nodes_node.trans ⟨And.right, fun below => ⟨fun dual => absurd dual other, below⟩⟩

theorem EveryDual.part (holds : f.EveryDual p) (part : g ∈ f.nodes) : g.EveryDual p :=
  Throughout.part (p := fun _ g => g.kind = .dual → p g) (n := 0) holds part

/-- The new nodes on the path to the variable are duals where the old ones are. -/
theorem substituteFirst?_everyDual (replacement : r.EveryDual p) (target : t.EveryDual p)
    (exchanged : ∀ d e, Substitution.Exchanges ⟨r, t, n⟩ d e → p d → p e) :
    ∀ h ∈ (substituteFirst? r t n).1, h.EveryDual p := by
  intro h found e within dual
  have replaced : substituteFirst? r t n = (some h, (substituteFirst? r t n).2) :=
    Prod.ext found rfl
  obtain new | old | ⟨d, part, plain, leads, becomes⟩ := mem_nodes_of_replaced replaced e within
  · exact replacement e new dual
  · exact target e old dual
  · have exchange : Substitution.Exchanges ⟨r, t, n⟩ d e := ⟨leads, becomes⟩
    have same : d.kind = .dual := (congrArg Head.kind (exchange.node plain).1).symm.trans dual
    exact exchanged d e exchange (target d part same)

theorem compose_everyDual (inner : r.EveryDual p) (outer : t.EveryDual p)
    (exchanged : ∀ d e, Substitution.Exchanges ⟨r, t, n⟩ d e → p d → p e) :
    (compose r t n).1.EveryDual p := by
  have replaced := substituteFirst?_everyDual inner outer exchanged
  change ((substituteFirst? r t n).1.getD t).EveryDual p
  cases found : (substituteFirst? r t n).1 with
  | none => exact outer
  | some h => exact replaced h found

theorem foldlM_compose_everyDual {first : Formula α} {rest : List (Formula α)}
    (start : first.EveryDual p) (each : ∀ f ∈ rest, f.EveryDual p)
    (exchanged : ∀ s ∈ compositions first rest n, ∀ d e, s.Exchanges d e → p d → p e) :
    (rest.foldlM compose first n).1.EveryDual p := by
  induction rest generalizing first n with
  | nil => exact start
  | cons next rest ih =>
    rw [List.forall_mem_cons] at each
    rw [compositions, List.forall_mem_cons] at exchanged
    rw [foldlM_compose_cons]
    exact ih (compose_everyDual start each.1 exchanged.1) each.2 exchanged.2

variable [Scalar α]

theorem goldenScaled_everyDual (turns : Nat) (holds : f.EveryDual p) :
    (goldenScaled turns f n).1.EveryDual p := by
  induction turns generalizing f n with
  | zero => exact holds
  | succ turns ih =>
    have factor : EveryDual p (node (nodeId n) ⟨.constant, some Scalar.golden, some "φ", none⟩ []) :=
      (everyDual_node (by simp)).mpr (by simp)
    exact ih ((everyDual_node (by simp)).mpr (by simp [holds, factor]))

/-- What a call makes has a property in every dual if its operands do, provided that a dual which is
combined has it, and that substitutions keep it. -/
theorem Call.Synthesizes.everyDual {c : Call α} (synthesizes : c.Synthesizes)
    (operands : ∀ f ∈ c.operands, f.EveryDual p)
    (combined : ∀ a b, c = .combine .dual a b → p (Formula.combine .dual a b n).1)
    (exchanged : ∀ s ∈ c.substitutions n, ∀ d e, s.Exchanges d e → p d → p e) :
    ∀ f ∈ (c.perform n).1, f.EveryDual p := by
  intro f made
  have leaf {head : Head α} (other : head.kind ≠ .dual) : EveryDual p (node (nodeId n) head []) :=
    (everyDual_node other).mpr fun _ member => absurd member List.not_mem_nil
  cases c with
  | constant _ | labeledConstant _ _ | var _ =>
    cases made
    exact leaf (by simp)
  | unary _ _ | function _ _ | binary _ _ _ =>
    cases made
    exact (everyDual_node (by simp)).mpr operands
  | combine mode a b =>
    cases made
    cases mode with
    | add | mul => exact (everyDual_node (by simp)).mpr operands
    | dual => exact forall_nodes_node.mpr ⟨fun _ => combined a b rfl, operands⟩
    | compose =>
      simp only [Call.operands, List.forall_mem_cons] at operands
      exact compose_everyDual operands.1 operands.2.1 (exchanged _ List.mem_cons_self)
  | chain fs =>
    cases fs with
    | nil => cases made
    | cons first rest =>
      cases made
      obtain ⟨start, each⟩ := List.forall_mem_cons.mp operands
      exact foldlM_compose_everyDual start each exchanged
  | halfTurnScaled f =>
    cases made
    exact (everyDual_node (by simp)).mpr
      (by simpa using ⟨operands f List.mem_cons_self, leaf (by simp)⟩)
  | goldenScaled turns f =>
    cases made
    exact goldenScaled_everyDual turns (operands f List.mem_cons_self)
  | dual _ _ _ | rebuild _ _ | substitute _ _ | applyOnce _ _ | reduce _ _ _ => exact synthesizes.elim

/-! Where duals come from. -/

variable {c : Call α} {history later : History α}

/-- The dual was made by combining `a` and `b`, and has come to be what it is by the substitutions of
later calls. -/
def Descends (history later : History α) (a b g : Formula α) : Prop :=
  ∃ k earlier, history = later ++ (.combine .dual a b, k) :: earlier ∧
    ReflTransGen later.Exchanges (combine .dual a b k).1 g

theorem Descends.cons (descends : Descends history later a b g) (made : Call α × Nat) :
    Descends (made :: history) (made :: later) a b g := by
  obtain ⟨k, earlier, rfl, exchanged⟩ := descends
  refine ⟨k, earlier, rfl, exchanged.lift (fun g => g) fun _ _ exchange => ?_⟩
  exact exchange.mono (List.subset_cons_self made later)

/-- Calls that combine two formulas into a dual substitute nothing, so that a substitution is later than
the dual. -/
theorem Descends.exchange (descends : Descends ((c, n) :: history) later a b f) {s : Substitution α}
    (substitution : s ∈ c.substitutions n) (exchanged : s.Exchanges f g) :
    Descends ((c, n) :: history) later a b g := by
  obtain ⟨k, earlier, split, already⟩ := descends
  cases later with
  | nil =>
    cases split
    exact absurd substitution List.not_mem_nil
  | cons made later =>
    cases split
    exact ⟨k, earlier, rfl, already.tail ⟨(c, n), List.mem_cons_self, s, substitution, exchanged⟩⟩

theorem Session.descends (session : Session Call.Synthesizes history pool n) :
    ∀ f ∈ pool, f.EveryDual fun g => ∃ later a b, Descends history later a b g := by
  induction session with
  | start => exact fun _ member => absurd member List.not_mem_nil
  | @part history pool n f g _ member part ih =>
    exact List.forall_mem_cons.mpr ⟨(ih f member).part part, ih⟩
  | @call history pool n c _ synthesizes operands ih =>
    have before : ∀ f ∈ pool, f.EveryDual fun g =>
        ∃ later a b, Descends ((c, n) :: history) later a b g := by
      intro f member g within dual
      obtain ⟨later, a, b, descends⟩ := ih f member g within dual
      exact ⟨_, a, b, descends.cons (c, n)⟩
    intro f member
    obtain new | old := List.mem_append.mp member
    · refine synthesizes.everyDual (fun f operand => before f (operands f operand)) ?_ ?_ f
        (Option.mem_toList.mp new)
      · rintro a b rfl
        exact ⟨[], a, b, n, history, rfl, .refl⟩
      · rintro s substitution d e exchanged ⟨later, a, b, descends⟩
        exact ⟨later, a, b, descends.exchange substitution exchanged⟩
    · exact before f old

/-- A dual keeps its companions, and its parts come from those that it was made of. -/
theorem Descends.parts (descends : Descends history later a b g) :
    g.head = ⟨.dual, none, some "dual", some ⟨a.closedValue.getD 0, b.closedValue.getD 0⟩⟩ ∧
      ∃ a' b', g.children = [a', b'] ∧ ReflTransGen later.Exchanges a a' ∧
        ReflTransGen later.Exchanges b b' := by
  obtain ⟨k, earlier, -, exchanged⟩ := descends
  induction exchanged with
  | refl => exact ⟨rfl, a, b, rfl, .refl, .refl⟩
  | @tail d e _ exchange ih =>
    obtain ⟨head, a', b', children, left, right⟩ := ih
    have plain : d.kind ≠ .var := by simp [kind, head]
    obtain ⟨same, below⟩ := exchange.node plain
    rw [children] at below
    generalize e.children = children' at below
    obtain _ | ⟨keptLeft, _ | ⟨keptRight, _ | _⟩⟩ := below
    exact ⟨same.trans head, _, _, rfl, left.trans keptLeft.to_reflTransGen,
      right.trans keptRight.to_reflTransGen⟩

/-- What a side of a dual tells of the formula that the dual was made of and of the one there now. -/
structure Recalls (later : History α) (original present : Formula α) (side : α) : Prop where
  made : side = original.closedValue.getD 0
  exchanged : ReflTransGen later.Exchanges original present
  told : side = present.closedValue.getD 0 ∨
    side = 0 ∧ ¬original.Closed ∧ TransGen later.Exchanges original present

theorem recalls_of_exchanged (wellFormed : f.WellFormed)
    (exchanged : ReflTransGen later.Exchanges f present) :
    Recalls later f present (f.closedValue.getD 0) := by
  refine ⟨rfl, exchanged, ?_⟩
  rcases Relation.reflTransGen_iff_eq_or_transGen.mp exchanged with rfl | replaced
  · exact .inl rfl
  · obtain ⟨_, first, _⟩ := Relation.TransGen.head'_iff.mp replaced
    refine .inr ⟨?_, first.opened, replaced⟩
    rw [closedValue_of_not_closed wellFormed first.opened]
    rfl

/-- Every dual that comes up in a session goes back to a call that combined two formulas into one. Its
companions tell the values of these two formulas, an undefined one counting as zero. They still tell the
values of its parts, except for a side that was zero because its formula had a variable, which a later
composition has replaced. -/
theorem companions_recall_originals (session : Session Call.Synthesizes history pool n) :
    ∀ f ∈ pool, ∀ g ∈ f.nodes, g.kind = .dual →
      ∃ a ∈ pool, ∃ b ∈ pool, ∃ later, Descends history later a b g ∧
        ∃ a' b' x y, g.children = [a', b'] ∧ g.companions = some ⟨x, y⟩ ∧
          Recalls later a a' x ∧ Recalls later b b' y := by
  intro f member g within dual
  obtain ⟨later, a, b, descends⟩ := session.descends f member g within dual
  obtain ⟨head, a', b', children, left, right⟩ := descends.parts
  have operands : ∀ f ∈ [a, b], f ∈ pool := by
    obtain ⟨k, earlier, rfl, -⟩ := descends
    exact session.operands_mem (.combine .dual a b, k) (by simp)
  have first : a ∈ pool := operands a List.mem_cons_self
  have second : b ∈ pool := operands b (List.mem_cons_of_mem a List.mem_cons_self)
  have wellFormed := (built_iff_exists_session.mpr ⟨history, session⟩).wellFormed
    fun _ synthesizes => synthesizes.complete
  exact ⟨a, first, b, second, later, descends, a', b', _, _, children, congrArg Head.companions head,
    recalls_of_exchanged (wellFormed a first) left, recalls_of_exchanged (wellFormed b second) right⟩

section Replaced

def unknown : Formula Float := node (nodeId 1) ⟨.var, none, some "x", none⟩ []

def minusOne : Formula Float := node (nodeId 2) ⟨.constant, some (-1), none, none⟩ []

def two : Formula Float := node (nodeId 4) ⟨.constant, some 2, none, none⟩ []

/-- A dual that was made of the unknown and of minus one, over what is there for the unknown. -/
def unknownPair (id : String) (present : Formula Float) : Formula Float :=
  node id ⟨.dual, none, some "dual",
    some ⟨unknown.closedValue.getD 0, minusOne.closedValue.getD 0⟩⟩ [present, minusOne]

def unknownPairHistory : History Float :=
  [(.combine .compose two (unknownPair (nodeId 3) unknown), 5), (.constant 2, 4),
    (.combine .dual unknown minusOne, 3), (.constant (-1), 2), (.var "x", 1)]

/-- Two composed into the dual. -/
theorem unknownPair_session : Session Call.Synthesizes unknownPairHistory
    [unknownPair (nodeId 5) two, two, unknownPair (nodeId 3) unknown, minusOne, unknown] 6 := by
  have none_needed {pool : List (Formula Float)} : ∀ f ∈ ([] : List (Formula Float)), f ∈ pool :=
    fun _ member => absurd member List.not_mem_nil
  have operands : Session Call.Synthesizes _ [minusOne, unknown] 3 :=
    .call (.constant (-1)) (.call (.var "x") (.start 1) trivial none_needed) trivial none_needed
  have paired : Session Call.Synthesizes _ [unknownPair (nodeId 3) unknown, minusOne, unknown] 4 :=
    .call (.combine .dual unknown minusOne) operands trivial (by simp [Call.operands])
  have replacement : Session Call.Synthesizes _
      [two, unknownPair (nodeId 3) unknown, minusOne, unknown] 5 :=
    .call (.constant 2) paired trivial none_needed
  exact .call (.combine .compose two (unknownPair (nodeId 3) unknown)) replacement trivial
    (by simp [Call.operands])

/-- The dual still carries zero where two has taken the place of the unknown. -/
theorem companions_outdated : ¬∀ (pool : List (Formula Float)) (n : Nat),
    Built Call.Synthesizes pool n → ∀ f ∈ pool, ∀ g ∈ f.nodes, g.kind = .dual →
      ∃ a b, g.children = [a, b] ∧
        g.companions = some ⟨a.closedValue.getD 0, b.closedValue.getD 0⟩ := by
  intro truthful
  have root : unknownPair (nodeId 5) two ∈ (unknownPair (nodeId 5) two).nodes := List.mem_cons_self
  obtain ⟨a, b, parts, companions⟩ :=
    truthful _ _ (built_iff_exists_session.mpr ⟨_, unknownPair_session⟩) _ List.mem_cons_self _ root rfl
  obtain ⟨rfl, rfl⟩ : two = a ∧ minusOne = b := by simpa [unknownPair, children] using parts
  have sides := congrArg (Option.map Companions.positive) companions
  have same : unknown.closedValue.getD 0 = two.closedValue.getD 0 := Option.some.inj sides
  have different : (unknown.closedValue.getD 0 == two.closedValue.getD 0) = false := by decide +kernel
  rw [same] at different
  exact absurd different (by decide +kernel)

/-- Zero is the value that counted for the unknown, and minus one is there still. -/
theorem companions_recall_originals_unknown :
    let g := unknownPair (nodeId 5) two
    Session Call.Synthesizes unknownPairHistory
        [g, two, unknownPair (nodeId 3) unknown, minusOne, unknown] 6 ∧
      ∃ later, Descends unknownPairHistory later unknown minusOne g ∧
        Recalls later unknown two (unknown.closedValue.getD 0) ∧
        Recalls later minusOne minusOne (minusOne.closedValue.getD 0) := by
  intro g
  have root : g ∈ g.nodes := List.mem_cons_self
  obtain ⟨a, -, b, -, later, descends, a', b', x, y, children, companions, left, right⟩ :=
    companions_recall_originals unknownPair_session g List.mem_cons_self g root rfl
  obtain ⟨rfl, rfl⟩ : a = unknown ∧ b = minusOne := by
    obtain ⟨k, earlier, split, -⟩ := descends
    have member : (.combine .dual a b, k) ∈ unknownPairHistory := by simp [split]
    have only : (a = unknown ∧ b = minusOne) ∧ k = 3 := by simpa [unknownPairHistory] using member
    exact only.1
  cases children
  cases companions
  exact ⟨unknownPair_session, later, descends, left, right⟩

end Replaced

end FormulaLab.Formula
