import FormulaLab.Proofs.Construction.Rewriting

/-! Formulas at hand. Calls make formulas out of those made before, which stay at hand and may be used
any number of times; what every call keeps holds of all formulas that can be made. One such property is
to have the children that the kind of a node asks for. -/

namespace FormulaLab.Formula

open Fresh (Yields)

variable {α : Type}

/-- Calls that make a formula. Rewriting is by the standard rules. -/
inductive Call (α : Type) where
  | constant (v : α)
  | labeledConstant (v : α) (label : String)
  | var (name : String)
  | unary (op : String) (operand : Formula α)
  | binary (op : String) (left right : Formula α)
  | function (name : String) (argument : Formula α)
  | dual (positive negative : Formula α) (companions : Companions α)
  | rebuild (f : Formula α) (children : List (Formula α))
  | combine (mode : SynthesisMode) (a b : Formula α)
  | chain (fs : List (Formula α))
  | halfTurnScaled (f : Formula α)
  | goldenScaled (turns : Nat) (f : Formula α)
  | substitute (replacement target : Formula α)
  | applyOnce (precision : α) (f : Formula α)
  | reduce (precision : α) (bound : Nat) (f : Formula α)

namespace Call

def operands : Call α → List (Formula α)
  | constant _ | labeledConstant _ _ | var _ => []
  | unary _ f | function _ f | halfTurnScaled f | goldenScaled _ f => [f]
  | applyOnce _ f | reduce _ _ f => [f]
  | binary _ f g | dual f g _ | combine _ f g | substitute f g => [f, g]
  | rebuild f children => f :: children
  | chain fs => fs

variable [Scalar α]

/-- The formula that is made, if any: an empty chain and a target without a variable give none. -/
def perform : Call α → Fresh (Option (Formula α))
  | constant v => some <$> Formula.constant v
  | labeledConstant v label => some <$> Formula.labeledConstant v label
  | var name => some <$> Formula.var name
  | unary op operand => some <$> Formula.unary op operand
  | binary op left right => some <$> Formula.binary op left right
  | function name argument => some <$> Formula.function name argument
  | dual positive negative companions => some <$> Formula.dual positive negative companions
  | rebuild f children => some <$> Formula.rebuild f children
  | combine mode a b => some <$> Formula.combine mode a b
  | chain fs =>
    match Formula.chain fs with
    | .ok chained => some <$> chained
    | .error _ => pure none
  | halfTurnScaled f => some <$> Formula.halfTurnScaled f
  | goldenScaled turns f => some <$> Formula.goldenScaled turns f
  | substitute replacement target => Formula.substituteFirst? replacement target
  | applyOnce precision f => do
    return some (← (Rulebook.standard precision).applyOnce f).output
  | reduce precision bound f => do
    return some (← (Rulebook.standard precision).reduce precision bound f).output

/-- What a hereditary property asks of a call: new duals and rebuilt nodes must have it. -/
def Admissible (p : Nat → Formula α → Prop) (n : Nat) : Call α → Prop
  | dual a b companions =>
    p (n + 1) (node (nodeId n) ⟨.dual, none, some "dual", some companions⟩ [a, b])
  | combine .dual a b => p (n + 1) (node (nodeId n) ⟨.dual, none, some "dual",
      some ⟨a.closedValue.getD 0, b.closedValue.getD 0⟩⟩ [a, b])
  | rebuild f children => p (n + 1) (node (nodeId n) f.head children)
  | applyOnce _ _ | reduce _ _ _ => Rebuildable p
  | _ => True

end Call

/-- Formulas at hand after some of the allowed calls, the latest first, and the number of ids drawn. Parts
of a formula are at hand with it. -/
inductive Built [Scalar α] (allowed : Call α → Prop) : List (Formula α) → Nat → Prop where
  | start (n : Nat) : Built allowed [] n
  | part {pool : List (Formula α)} {n : Nat} {f g : Formula α} : Built allowed pool n → f ∈ pool →
      g ∈ f.nodes → Built allowed (g :: pool) n
  | call {pool : List (Formula α)} {n : Nat} (c : Call α) : Built allowed pool n → allowed c →
      (∀ f ∈ c.operands, f ∈ pool) → Built allowed ((c.perform n).1.toList ++ pool) (c.perform n).2

variable {p : Nat → Formula α → Prop} {n : Nat}

theorem yields_some {x : Fresh (Formula α)} (made : Yields (Throughout p) x n) :
    Yields (fun m made => ∀ f ∈ made, Throughout p m f) (some <$> x) n :=
  made.map fun _ _ holds _ same => Option.mem_some.mp same ▸ holds

variable [Scalar α]

/-- One call makes a formula that has a hereditary property throughout, if its operands do. -/
theorem Hereditary.perform_yields (hereditary : Hereditary p) (c : Call α)
    (admissible : c.Admissible p n) (operands : ∀ f ∈ c.operands, f.Throughout p n) :
    Yields (fun m made => ∀ f ∈ made, Throughout p m f) c.perform n := by
  have single {f : Formula α} (member : c.operands = [f]) : f.Throughout p n :=
    operands f (member ▸ List.mem_cons_self)
  have pair {f g : Formula α} (members : c.operands = [f, g]) : f.Throughout p n ∧ g.Throughout p n :=
    ⟨operands f (members ▸ List.mem_cons_self),
      operands g (members ▸ List.mem_cons_of_mem f List.mem_cons_self)⟩
  cases c with
  | constant v =>
    exact yields_some (hereditary.leaf_yields (fun same => Kind.noConfusion same) ⟨rfl, rfl⟩)
  | labeledConstant v label => exact yields_some (hereditary.labeledConstant_yields v label)
  | var name =>
    exact yields_some (hereditary.leaf_yields (fun same => Kind.noConfusion same) ⟨rfl, rfl⟩)
  | unary op operand =>
    exact yields_some (hereditary.plain_yields (fun same => Kind.noConfusion same) (.inl rfl) operands)
  | binary op left right =>
    obtain ⟨first, second⟩ := pair rfl
    exact yields_some (hereditary.binary_yields op first second)
  | function name argument =>
    exact yields_some (hereditary.plain_yields (fun same => Kind.noConfusion same) rfl operands)
  | dual positive negative companions => exact yields_some (hereditary.build_yields admissible operands)
  | rebuild f children =>
    exact yields_some (hereditary.build_yields admissible (List.forall_mem_cons.mp operands).2)
  | combine mode a b =>
    obtain ⟨left, right⟩ := pair rfl
    refine yields_some (hereditary.combine_yields mode left right ?_)
    rintro rfl
    exact admissible
  | chain fs =>
    cases chained : Formula.chain fs with
    | ok x =>
      simp only [Call.perform, chained]
      exact yields_some (hereditary.chain_yields chained operands)
    | error refusal =>
      simp only [Call.perform, chained]
      exact .pure fun _ none => absurd none (Option.not_mem_none _)
  | halfTurnScaled f => exact yields_some (hereditary.halfTurnScaled_yields (single rfl))
  | goldenScaled turns f => exact yields_some (hereditary.goldenScaled_yields turns (single rfl))
  | substitute replacement target =>
    obtain ⟨new, old⟩ := pair rfl
    exact hereditary.substituteFirst?_yields new old
  | applyOnce precision f =>
    refine (Rulebook.applyOnce_yields hereditary admissible
      (Rulebook.standard_keeps hereditary precision) (single rfl)).bind fun pass m _ holds => ?_
    exact .pure fun _ same => Option.mem_some.mp same ▸ holds
  | reduce precision bound f =>
    refine (Rulebook.reduce_yields hereditary admissible
      (Rulebook.standard_keeps hereditary precision) precision bound (single rfl)).bind ?_
    exact fun reduction m _ holds => .pure fun _ same => Option.mem_some.mp same ▸ holds

/-- Calls keep a hereditary property of all formulas at hand. -/
theorem Hereditary.call_keeps (hereditary : Hereditary p) {pool : List (Formula α)} (c : Call α)
    (admissible : c.Admissible p n) (operands : ∀ f ∈ c.operands, f ∈ pool)
    (holds : ∀ f ∈ pool, f.Throughout p n) :
    ∀ f ∈ (c.perform n).1.toList ++ pool, f.Throughout p (c.perform n).2 := by
  have made := hereditary.perform_yields c admissible fun f member => holds f (operands f member)
  intro f member
  rcases List.mem_append.mp member with new | old
  · exact made.result f (Option.mem_toList.mp new)
  · exact hereditary.throughout made.onwards (holds f old)

/-- A hereditary property that all allowed calls admit is one of every formula that they can make. -/
theorem Built.throughout {allowed : Call α → Prop} {pool : List (Formula α)}
    (built : Built allowed pool n) (hereditary : Hereditary p)
    (admits : ∀ (c : Call α) (n : Nat), allowed c → (∀ f ∈ c.operands, f.Throughout p n) →
      c.Admissible p n) : ∀ f ∈ pool, f.Throughout p n := by
  induction built with
  | start => exact fun _ member => absurd member List.not_mem_nil
  | part _ member part ih => exact List.forall_mem_cons.mpr ⟨(ih _ member).part part, ih⟩
  | call c _ permitted operands ih =>
    have admissible := admits c _ permitted fun f member => ih f (operands f member)
    exact hereditary.call_keeps c admissible operands ih

/-! Complete nodes. -/

omit [Scalar α] in
theorem fits_hereditary : Hereditary fun _ (g : Formula α) => g.head.Fits g.children.length where
  lasts _ fits := fits
  plain _ fits _ := fits
  filled := by
    intro n id head children children' fits touched _
    exact touched.length_eq ▸ fits

omit [Scalar α] in
theorem fits_rebuildable : Rebuildable fun _ (g : Formula α) => g.head.Fits g.children.length := by
  intro n id head children children' fits sameLength _
  change head.Fits children'.length
  rw [sameLength]
  exact fits

/-- Calls that leave no node incomplete: one that is rebuilt gets as many children as it had. -/
def Call.Complete : Call α → Prop
  | rebuild f children => children.length = f.children.length
  | _ => True

theorem Call.Complete.admissible {c : Call α} (complete : c.Complete)
    (operands : ∀ f ∈ c.operands, f.Throughout (fun _ g => g.head.Fits g.children.length) n) :
    c.Admissible (fun _ g => g.head.Fits g.children.length) n := by
  cases c with
  | dual a b companions => exact ⟨rfl, rfl⟩
  | combine mode a b =>
    cases mode with
    | dual => exact ⟨rfl, rfl⟩
    | add | mul | compose => trivial
  | rebuild f children =>
    have root : f.head.Fits f.children.length := by
      cases f with
      | node id head below => exact (throughout_node.mp (operands _ List.mem_cons_self)).1
    change f.head.Fits children.length
    rw [show children.length = f.children.length from complete]
    exact root
  | applyOnce _ _ | reduce _ _ _ => exact fits_rebuildable
  | _ => trivial

theorem Built.wellFormed {allowed : Call α → Prop} {pool : List (Formula α)}
    (complete : ∀ c, allowed c → c.Complete) (built : Built allowed pool n) :
    ∀ f ∈ pool, f.WellFormed :=
  built.throughout fits_hereditary fun c _ permitted operands =>
    (complete c permitted).admissible operands

end FormulaLab.Formula
