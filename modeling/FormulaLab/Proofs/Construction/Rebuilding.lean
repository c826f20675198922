import FormulaLab.Proofs.Construction.Calls
import FormulaLab.Proofs.Construction.Replacement
import FormulaLab.Scalar.Binary64

/-! Rebuilding. A node is to be rebuilt over as many children as it had, and substitution and rewriting put
these children together themselves. Here they run with a check of their number wherever a node is rebuilt, a
wrong number ending the run without a result. Every such check is passed, so that complete formulas stay
complete in all that is made of them. -/

namespace FormulaLab

/-- A computation that draws ids and that a failed check ends without a result. -/
abbrev Checked := StateT Nat Option

namespace Fresh

variable {β γ : Type}

/-- The computation as one with checks, of which it makes none. -/
def toChecked (x : Fresh β) : Checked β := fun n => some (x n)

/-- Checks later on are passed if they are passed after the results that come up. -/
theorem toChecked_bind {x : Fresh β} {next : β → Fresh γ} {checked : β → Checked γ}
    (agree : ∀ n, checked (x n).1 = (next (x n).1).toChecked) :
    x.toChecked >>= checked = (x >>= next).toChecked :=
  funext fun n => congrFun (agree n) (x n).2

theorem toChecked_map (f : β → γ) (x : Fresh β) : f <$> x.toChecked = (f <$> x).toChecked := rfl

theorem toChecked_mapM {draw : β → Fresh γ} {checked : β → Checked γ} {xs : List β}
    (agree : ∀ x ∈ xs, checked x = (draw x).toChecked) :
    xs.mapM checked = (xs.mapM draw).toChecked := by
  induction xs with
  | nil => rfl
  | cons x rest ih =>
    rw [List.forall_mem_cons] at agree
    rw [List.mapM_cons, List.mapM_cons, agree.1, ih agree.2]
    exact toChecked_bind fun _ => toChecked_bind fun _ => rfl

theorem toChecked_foldlM {step : γ → β → Fresh γ} {checked : γ → β → Checked γ}
    (agree : ∀ c x, checked c x = (step c x).toChecked) (c : γ) (xs : List β) :
    xs.foldlM checked c = (xs.foldlM step c).toChecked := by
  induction xs generalizing c with
  | nil => rfl
  | cons x rest ih =>
    rw [List.foldlM_cons, List.foldlM_cons, agree]
    exact toChecked_bind fun _ => ih _

end Fresh

open Fresh (toChecked_bind toChecked_map toChecked_mapM toChecked_foldlM)

namespace Formula

variable {α : Type} {r : Formula α}

/-- A new node with the same head over as many children; any other number fails the check. -/
def checkedRebuild (f : Formula α) (children : List (Formula α)) : Checked (Formula α) :=
  if children.length = f.children.length then (f.rebuild children).toChecked else failure

theorem checkedRebuild_eq {f : Formula α} {children : List (Formula α)}
    (arity : children.length = f.children.length) :
    f.checkedRebuild children = (f.rebuild children).toChecked := if_pos arity

/-! Replacing variables, with every rebuilding checked. -/

mutual

def checkedSubstituteFirst? (replacement : Formula α) : Formula α → Checked (Option (Formula α))
  | node id head children =>
    if head.kind = .var then pure (some replacement)
    else do
      match ← checkedSubstituteFirstAmong? replacement children with
      | some filled => some <$> (node id head children).checkedRebuild filled
      | none => pure none

def checkedSubstituteFirstAmong? (replacement : Formula α) :
    List (Formula α) → Checked (Option (List (Formula α)))
  | [] => pure none
  | child :: rest => do
    match ← checkedSubstituteFirst? replacement child with
    | some child => pure (some (child :: rest))
    | none => return (← checkedSubstituteFirstAmong? replacement rest).map (child :: ·)

end

def checkedCompose (inner outer : Formula α) : Checked (Formula α) :=
  return (← checkedSubstituteFirst? inner outer).getD outer

def checkedChain : List (Formula α) → Except SynthesisError (Checked (Formula α))
  | [] => .error .emptyChain
  | first :: rest => .ok (rest.foldlM checkedCompose first)

def checkedCombine [Scalar α] (mode : SynthesisMode) (a b : Formula α) : Checked (Formula α) :=
  match mode with
  | .compose => checkedCompose a b
  | .add | .mul | .dual => (combine mode a b).toChecked

theorem checkedSubstituteFirstAmong?_eq {fs : List (Formula α)}
    (each : ∀ f ∈ fs, checkedSubstituteFirst? r f = (substituteFirst? r f).toChecked) :
    checkedSubstituteFirstAmong? r fs = (substituteFirstAmong? r fs).toChecked := by
  induction fs with
  | nil => rfl
  | cons f rest ih =>
    rw [List.forall_mem_cons] at each
    rw [checkedSubstituteFirstAmong?, substituteFirstAmong?, each.1, ih each.2]
    refine toChecked_bind fun n => ?_
    cases (substituteFirst? r f n).1 with
    | some g => rfl
    | none => exact toChecked_bind fun _ => rfl

/-- One child at most is exchanged for another one, so that their number stays. -/
theorem checkedSubstituteFirst?_eq (r f : Formula α) :
    checkedSubstituteFirst? r f = (substituteFirst? r f).toChecked := by
  induction f with
  | node id head children ih =>
    rw [checkedSubstituteFirst?, substituteFirst?]
    split
    · rfl
    · rw [checkedSubstituteFirstAmong?_eq ih]
      refine toChecked_bind fun n => ?_
      cases found : (substituteFirstAmong? r children n).1 with
      | none => rfl
      | some filled =>
        have arity : filled.length = children.length := (substituteFirstAmong?_fills found).length_eq.symm
        change some <$> (node id head children).checkedRebuild filled = _
        rw [checkedRebuild_eq arity]
        exact toChecked_map some _

theorem checkedCompose_eq (inner outer : Formula α) :
    checkedCompose inner outer = (compose inner outer).toChecked := by
  rw [checkedCompose, checkedSubstituteFirst?_eq]
  exact toChecked_bind fun _ => rfl

theorem checkedChain_eq (fs : List (Formula α)) :
    checkedChain fs = (chain fs).map (·.toChecked) := by
  cases fs with
  | nil => rfl
  | cons first rest => exact congrArg Except.ok (toChecked_foldlM checkedCompose_eq first rest)

theorem checkedCombine_eq [Scalar α] (mode : SynthesisMode) (a b : Formula α) :
    checkedCombine mode a b = (combine mode a b).toChecked := by
  cases mode with
  | compose => exact checkedCompose_eq a b
  | add | mul | dual => rfl

end Formula

namespace Rulebook

variable {α : Type}

/-! Rewriting, with every rebuilding checked. The standard rules rebuild no node. -/

def checkedPassNode (book : Rulebook α) (f : Formula α) (children : List (Checked (Pass α))) :
    Checked (Pass α) := do
  let passes ← children.mapM fun child => child
  let below := passes.flatMap (·.fired)
  let current ← if below = [] then pure f else f.checkedRebuild (passes.map (·.output))
  (book.tryRules below current).toChecked

def checkedApplyOnce (book : Rulebook α) : Formula α → Checked (Pass α) :=
  Formula.fold book.checkedPassNode

theorem checkedApplyOnce_node (book : Rulebook α) (id : String) (head : Head α)
    (children : List (Formula α)) :
    book.checkedApplyOnce (.node id head children) = (do
      let passes ← children.mapM book.checkedApplyOnce
      let current ←
        if passes.flatMap (·.fired) = [] then pure (.node id head children)
        else (Formula.node id head children).checkedRebuild (passes.map (·.output))
      (book.tryRules (passes.flatMap (·.fired)) current).toChecked) := by
  rw [checkedApplyOnce, Formula.fold_node, checkedPassNode, List.mapM_map]
  rfl

/-- Passes over the children leave one formula of each. -/
theorem checkedApplyOnce_eq (book : Rulebook α) (f : Formula α) :
    book.checkedApplyOnce f = (book.applyOnce f).toChecked := by
  induction f with
  | node id head children ih =>
    rw [checkedApplyOnce_node, applyOnce_node, toChecked_mapM ih]
    refine toChecked_bind fun n => ?_
    have arity := (Fresh.mapM_results book.applyOnce children n).length_eq
    generalize (children.mapM book.applyOnce n).1 = passes at arity ⊢
    split
    · rfl
    · have same : (passes.map (·.output)).length = children.length :=
        (List.length_map _).trans arity.symm
      rw [Formula.checkedRebuild_eq (f := .node id head children) same]
      exact toChecked_bind fun _ => rfl

variable [Scalar α]

def checkedIterate (book : Rulebook α) : (bound done : Nat) → Formula α →
    Checked (Formula α × List (ReductionStep α) × Bool)
  | 0, _, f => do
    let pass ← book.checkedApplyOnce f
    return (f, [], pass.fired.isEmpty)
  | bound + 1, done, f => do
    let pass ← book.checkedApplyOnce f
    if pass.fired.isEmpty then return (f, [], true)
    else
      let (output, steps, converged) ← book.checkedIterate bound (done + 1) pass.output
      return (output, recordStep (done + 1) f pass :: steps, converged)

def checkedReduce (book : Rulebook α) (precision : α) (bound : Nat) (f : Formula α) :
    Checked (Reduction α) := do
  let (output, steps, converged) ← book.checkedIterate bound 0 f
  return { input := f, output, steps, converged, analysis := output.analyze precision }

theorem checkedIterate_eq (book : Rulebook α) (bound done : Nat) (f : Formula α) :
    book.checkedIterate bound done f = (book.iterate bound done f).toChecked := by
  induction bound generalizing done f with
  | zero =>
    rw [checkedIterate, iterate, checkedApplyOnce_eq]
    exact toChecked_bind fun _ => rfl
  | succ bound ih =>
    rw [checkedIterate, iterate, checkedApplyOnce_eq]
    refine toChecked_bind fun n => ?_
    split
    · rfl
    · rw [ih]
      exact toChecked_bind fun _ => rfl

theorem checkedReduce_eq (book : Rulebook α) (precision : α) (bound : Nat) (f : Formula α) :
    book.checkedReduce precision bound f = (book.reduce precision bound f).toChecked := by
  rw [checkedReduce, checkedIterate_eq]
  exact toChecked_bind fun _ => rfl

end Rulebook

namespace Formula

variable {α : Type} [Scalar α]

/-- The call, with every rebuilding checked. -/
def Call.checkedPerform : Call α → Checked (Option (Formula α))
  | rebuild f children => some <$> f.checkedRebuild children
  | combine mode a b => some <$> checkedCombine mode a b
  | chain fs =>
    match checkedChain fs with
    | .ok chained => some <$> chained
    | .error _ => pure none
  | substitute replacement target => checkedSubstituteFirst? replacement target
  | applyOnce precision f => do
    return some (← (Rulebook.standard precision).checkedApplyOnce f).output
  | reduce precision bound f => do
    return some (← (Rulebook.standard precision).checkedReduce precision bound f).output
  | c => c.perform.toChecked

theorem Call.checkedPerform_eq {c : Call α} (complete : c.Complete) :
    c.checkedPerform = c.perform.toChecked := by
  cases c with
  | rebuild f children =>
    rw [checkedPerform, checkedRebuild_eq complete]
    exact toChecked_map some _
  | combine mode a b =>
    rw [checkedPerform, checkedCombine_eq]
    exact toChecked_map some _
  | chain fs =>
    rw [checkedPerform, checkedChain_eq]
    cases fs with
    | nil => rfl
    | cons first rest => exact toChecked_map some (rest.foldlM compose first)
  | substitute replacement target => exact checkedSubstituteFirst?_eq replacement target
  | applyOnce precision f =>
    rw [checkedPerform, Rulebook.checkedApplyOnce_eq]
    exact toChecked_bind fun _ => rfl
  | reduce precision bound f =>
    rw [checkedPerform, Rulebook.checkedReduce_eq]
    exact toChecked_bind fun _ => rfl
  | _ => rfl

/-- Children that are given for a node to rebuild are checked too. -/
theorem Call.checkedPerform_of_not_complete {c : Call α} (incomplete : ¬c.Complete) (n : Nat) :
    c.checkedPerform n = none := by
  cases c with
  | rebuild f children =>
    have failed : f.checkedRebuild children = failure := if_neg incomplete
    rw [checkedPerform, failed]
    rfl
  | _ => exact absurd trivial incomplete

/-- Nothing is made of an empty chain, nor by substitution in a formula without variables. -/
theorem Call.perform_eq_none_iff {c : Call α} {n : Nat} :
    (c.perform n).1 = none ↔ c = .chain [] ∨ ∃ r t, c = .substitute r t ∧ t.Closed := by
  -- All other calls end by wrapping up the formula that they have made.
  have made {d : Call α} {g : Formula α} (gives : (d.perform n).1 = some g) (chains : d ≠ .chain [])
      (substitutes : ∀ r t, d ≠ .substitute r t) :
      (d.perform n).1 = none ↔ d = .chain [] ∨ ∃ r t, d = .substitute r t ∧ t.Closed := by
    simp [gives, chains, substitutes]
  cases c with
  | chain fs =>
    cases fs with
    | nil => exact iff_of_true rfl (.inl rfl)
    | cons first rest => exact made rfl (by simp) (by simp)
  | substitute replacement target =>
    rw [perform, substituteFirst?_eq_none_iff]
    simp
  | _ => exact made rfl (by simp) (by simp)

/-- Arity is preserved. With every rebuilding checked, calls run as they do without checks: substitutions,
compositions and chains of them, and passes and reductions by the standard rules, rebuild each node over as
many children as it had. Only children that the caller gives for a node to rebuild can fail a check. Out of
complete formulas comes a complete one, and there is one save for an empty chain and for a substitution in a
formula without variables. -/
theorem arity_preserved (c : Call α) (operands : ∀ f ∈ c.operands, f.WellFormed) (n : Nat) :
    (c.checkedPerform n = none ↔ ¬c.Complete) ∧
      (c.Complete → c.checkedPerform n = some (c.perform n) ∧ ∀ f ∈ (c.perform n).1, f.WellFormed) ∧
      ((c.perform n).1 = none ↔ c = .chain [] ∨ ∃ r t, c = .substitute r t ∧ t.Closed) := by
  have passed (complete : c.Complete) : c.checkedPerform n = some (c.perform n) :=
    congrFun (Call.checkedPerform_eq complete) n
  refine ⟨⟨fun failed complete => ?_, fun incomplete => ?_⟩, fun complete => ⟨passed complete, ?_⟩,
    Call.perform_eq_none_iff⟩
  · exact Option.some_ne_none _ ((passed complete).symm.trans failed)
  · exact Call.checkedPerform_of_not_complete incomplete n
  · exact (fits_hereditary.perform_yields c (complete.admissible operands) operands).result

/-- A sum of numbers folds under a product, a sine and a dual, which are rebuilt over it. -/
theorem arity_preserved_rebuilt :
    let number (v : Float) : Formula Float := node "number" ⟨.constant, some v, none, none⟩ []
    let unknown : Formula Float := node "unknown" ⟨.var, none, some "x", none⟩ []
    let sum := node "sum" ⟨.operator, none, some "+", none⟩ [number 1, number 2]
    let product := node "product" ⟨.operator, none, some "*", none⟩ [sum, unknown]
    let sine := node "sine" ⟨.function, none, some "sin", none⟩ [product]
    let pair := node "pair" ⟨.dual, none, some "dual", some ⟨0, 4⟩⟩ [sine, number 4]
    let call : Call Float := .reduce 1e-10 5 pair
    (∀ f ∈ call.operands, f.WellFormed) ∧ call.checkedPerform 1 = some (call.perform 1) ∧
      ∃ g, (call.perform 1).1 = some g ∧ g.WellFormed ∧
        g.nodes.map Formula.id = [nodeId 4, nodeId 3, nodeId 2, nodeId 1, "unknown", "number"] := by
  intro number unknown sum product sine pair call
  have operands : ∀ f ∈ call.operands, f.WellFormed := by
    simp [call, Call.operands, WellFormed, pair, sine, product, sum, unknown, number, Head.Fits, head,
      children]
  obtain ⟨-, keeps, -⟩ := arity_preserved call operands 1
  obtain ⟨passed, complete⟩ := keeps trivial
  have ids : (call.perform 1).1.map (·.nodes.map Formula.id) =
      some [nodeId 4, nodeId 3, nodeId 2, nodeId 1, "unknown", "number"] := by decide +kernel
  obtain ⟨g, made, named⟩ := Option.map_eq_some_iff.mp ids
  exact ⟨operands, passed, g, made, complete g made, named⟩

end Formula
end FormulaLab
