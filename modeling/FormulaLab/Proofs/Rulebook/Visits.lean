import FormulaLab.Proofs.Construction.Rewriting
import FormulaLab.Proofs.Rulebook.Registry
import FormulaLab.Scalar.Binary64

/-! The visits of a pass, for any rulebook. A pass comes to every node of a formula once, after the nodes
below it. There it tries the rules on the node over what it has left of the children, and at most one of
them fires. -/

namespace FormulaLab

variable {α : Type}

/-- A visit to a node. -/
structure Visit (α : Type) where
  site : Formula α
  /-- What the rules are tried on there. -/
  tried : Formula α
  /-- The rule that fires. -/
  rule? : Option (Rule α)
  /-- What is left. -/
  result : Formula α
  /-- The counter when the children are done. -/
  start : Nat
  /-- The counter when the rules are tried. -/
  ready : Nat
  /-- The counter when the node is done. -/
  stop : Nat
  /-- The visits to the children, in order. -/
  inner : List (Visit α)

namespace Visit

mutual

/-- The visits that lead up to this one and then this one itself. -/
def postorder : Visit α → List (Visit α)
  | ⟨site, tried, rule?, result, start, ready, stop, inner⟩ =>
    postorderAll inner ++ [⟨site, tried, rule?, result, start, ready, stop, inner⟩]

def postorderAll : List (Visit α) → List (Visit α)
  | [] => []
  | v :: rest => v.postorder ++ postorderAll rest

end

theorem postorderAll_eq (vs : List (Visit α)) : postorderAll vs = vs.flatMap postorder := by
  induction vs with
  | nil => rfl
  | cons v rest ih => rw [postorderAll, ih, List.flatMap_cons]

theorem postorder_eq (v : Visit α) : v.postorder = v.inner.flatMap postorder ++ [v] := by
  cases v
  rw [postorder, postorderAll_eq]

/-- Names of the rules that fire, in the order of the visits. -/
def fired (v : Visit α) : List String := v.postorder.filterMap fun w => w.rule?.map (·.name)

/-- No rule fires at the node or below it. -/
def Quiet (v : Visit α) : Prop := ∀ w ∈ v.postorder, w.rule? = none

theorem fired_eq (v : Visit α) :
    v.fired = v.inner.flatMap fired ++ (v.rule?.map (·.name)).toList := by
  rw [fired, postorder_eq, List.filterMap_append, List.filterMap_flatMap]
  refine congrArg (v.inner.flatMap fired ++ ·) ?_
  cases fires : v.rule? <;> simp [fires]

theorem fired_eq_nil_iff {v : Visit α} : v.fired = [] ↔ v.Quiet := by
  simp only [fired, Quiet, List.filterMap_eq_nil_iff, Option.map_eq_none_iff]

/-- Visits one after the other: each takes up the counter where the one before has left it. -/
inductive Consecutive : Nat → List (Visit α) → Nat → Prop where
  | nil (n : Nat) : Consecutive n [] n
  | cons {v : Visit α} {vs : List (Visit α)} {m : Nat} :
      Consecutive v.stop vs m → Consecutive v.start (v :: vs) m

theorem Consecutive.append {vs ws : List (Visit α)} {n k m : Nat} (first : Consecutive n vs k)
    (second : Consecutive k ws m) : Consecutive n (vs ++ ws) m := by
  induction first with
  | nil => exact second
  | cons _ ih => exact .cons (ih second)

theorem Consecutive.onwards {vs : List (Visit α)} {n m : Nat} (consecutive : Consecutive n vs m)
    (each : ∀ v ∈ vs, v.start ≤ v.stop) :
    (∀ v ∈ vs, n ≤ v.start) ∧ vs.Pairwise fun v w => v.stop ≤ w.start := by
  induction consecutive with
  | nil => simp
  | @cons v vs m _ ih =>
    rw [List.forall_mem_cons] at each
    obtain ⟨later, apart⟩ := ih each.2
    refine ⟨List.forall_mem_cons.mpr ⟨Nat.le_refl _, fun w member => ?_⟩, .cons later apart⟩
    exact each.1.trans (later w member)

/-- What happens at a visit in a pass. -/
structure Follows (book : Rulebook α) (v : Visit α) : Prop where
  /-- The children have been visited in order. -/
  inner : v.inner.map site = v.site.children
  /-- The rules are tried on the node over what is left of its children. -/
  head : v.tried.head = v.site.head
  children : v.tried.children = v.inner.map result
  /-- That is the node itself if nothing has fired below it. -/
  untouched : (∀ w ∈ v.inner, w.Quiet) → v.tried = v.site ∧ v.ready = v.start
  /-- Otherwise it is a new one, with the next id. -/
  renewed : (∃ w ∈ v.inner, ¬w.Quiet) → v.tried.id = nodeId v.start ∧ v.ready = v.start + 1
  /-- The first rule that applies there fires. -/
  matched : v.rule? = book.firstMatch? v.tried
  kept : v.rule? = none → v.result = v.tried ∧ v.stop = v.ready
  replaced : ∀ rule, v.rule? = some rule → rule.transform v.tried v.ready = (v.result, v.stop)

/-- The visits of a pass from the counter `n` on: one for every node of the formula, in postorder. -/
structure Accounts (book : Rulebook α) (n : Nat) (f : Formula α) (outcome : Pass α × Nat)
    (v : Visit α) : Prop where
  site : v.site = f
  sites : v.postorder.map Visit.site = f.postorder
  follows : ∀ w ∈ v.postorder, w.Follows book
  consecutive : Consecutive n v.postorder outcome.2
  fired : outcome.1.fired = v.fired
  output : outcome.1.output = v.result

/-- The visits to formulas side by side. -/
structure AccountsAll (book : Rulebook α) (n : Nat) (fs : List (Formula α))
    (outcome : List (Pass α) × Nat) (vs : List (Visit α)) : Prop where
  site : vs.map Visit.site = fs
  sites : (vs.flatMap postorder).map Visit.site = fs.flatMap Formula.postorder
  follows : ∀ w ∈ vs.flatMap postorder, w.Follows book
  consecutive : Consecutive n (vs.flatMap postorder) outcome.2
  fired : outcome.1.flatMap (·.fired) = vs.flatMap Visit.fired
  outputs : outcome.1.map (·.output) = vs.map Visit.result

section

variable {book : Rulebook α} {n : Nat} {v : Visit α}

/-- A visit accounts for a node if the visits in it account for the children. -/
theorem Follows.accounts {outcomes : List (Pass α) × Nat} {outcome : Pass α × Nat}
    (follows : v.Follows book) (inner : AccountsAll book n v.site.children outcomes v.inner)
    (start : v.start = outcomes.2) (stop : outcome.2 = v.stop)
    (fired : outcome.1.fired = outcomes.1.flatMap (·.fired) ++ (v.rule?.map (·.name)).toList)
    (output : outcome.1.output = v.result) : v.Accounts book n v.site outcome where
  site := rfl
  sites := by
    rw [postorder_eq, List.map_append, inner.sites]
    exact (Formula.postorder_eq v.site).symm
  follows := by
    rw [postorder_eq, List.forall_mem_append, List.forall_mem_singleton]
    exact ⟨inner.follows, follows⟩
  consecutive := by
    rw [postorder_eq, stop]
    refine inner.consecutive.append ?_
    rw [← start]
    exact .cons (.nil _)
  fired := by rw [fired, fired_eq, inner.fired]
  output := output

theorem exists_accountsAll {fs : List (Formula α)}
    (each : ∀ f ∈ fs, ∀ n, ∃ v, Accounts book n f (book.applyOnce f n) v) (n : Nat) :
    ∃ vs, AccountsAll book n fs (fs.mapM book.applyOnce n) vs := by
  induction fs generalizing n with
  | nil => exact ⟨[], rfl, rfl, by simp, .nil n, rfl, rfl⟩
  | cons f fs ih =>
    rw [List.forall_mem_cons] at each
    obtain ⟨v, first⟩ := each.1 n
    obtain ⟨vs, rest⟩ := ih each.2 (book.applyOnce f n).2
    rw [List.mapM_cons]
    refine ⟨v :: vs, ?_, ?_, ?_, ?_, ?_, ?_⟩
    · rw [List.map_cons, first.site, rest.site]
    · rw [List.flatMap_cons, List.map_append, first.sites, rest.sites, List.flatMap_cons]
    · rw [List.flatMap_cons]
      exact List.forall_mem_append.mpr ⟨first.follows, rest.follows⟩
    · rw [List.flatMap_cons]
      exact first.consecutive.append rest.consecutive
    · rw [List.flatMap_cons, ← first.fired, ← rest.fired]
      rfl
    · rw [List.map_cons, ← first.output, ← rest.outputs]
      rfl

/-- Trying the rules ends the visit to a node. -/
theorem exists_accounts_tryRules {site current : Formula α} {passes : List (Pass α)} {k m : Nat}
    {vs : List (Visit α)} (inner : AccountsAll book n site.children (passes, k) vs)
    (head : current.head = site.head) (children : current.children = vs.map result)
    (untouched : (∀ w ∈ vs, w.Quiet) → current = site ∧ m = k)
    (renewed : (∃ w ∈ vs, ¬w.Quiet) → current.id = nodeId k ∧ m = k + 1) :
    ∃ v, Accounts book n site (book.tryRules (passes.flatMap (·.fired)) current m) v := by
  cases matched : book.firstMatch? current with
  | none =>
    simp only [Rulebook.tryRules, matched]
    have here : (Visit.mk site current none current k m m vs).Follows book :=
      ⟨inner.site, head, children, untouched, renewed, matched.symm, fun _ => ⟨rfl, rfl⟩,
        fun rule fires => absurd fires.symm (Option.some_ne_none rule)⟩
    exact ⟨_, here.accounts inner rfl rfl (List.append_nil _).symm rfl⟩
  | some rule =>
    simp only [Rulebook.tryRules, matched]
    cases transformed : rule.transform current m with
    | mk result stop =>
      have replaced : ∀ other, some rule = some other →
          other.transform current m = (result, stop) := by
        intro other fires
        rw [← Option.some.inj fires]
        exact transformed
      have here : (Visit.mk site current (some rule) result k m stop vs).Follows book :=
        ⟨inner.site, head, children, untouched, renewed, matched.symm,
          fun none => absurd none (Option.some_ne_none rule), replaced⟩
      simp only [bind, StateT.bind, transformed]
      exact ⟨_, here.accounts inner rfl rfl rfl rfl⟩

/-- A pass accounts for every node by a visit. -/
theorem exists_accounts (book : Rulebook α) (f : Formula α) (n : Nat) :
    ∃ v, Accounts book n f (book.applyOnce f n) v := by
  induction f generalizing n with
  | node id head children ih =>
    obtain ⟨passes, current, k, m, swept, built, run⟩ :=
      book.applyOnce_node_run id head children n
    have results := Fresh.mapM_results book.applyOnce children n
    obtain ⟨vs, inner⟩ := exists_accountsAll ih n
    rw [swept] at results inner
    have silent : passes.flatMap (·.fired) = [] ↔ ∀ w ∈ vs, w.Quiet := by
      simp only [inner.fired, List.flatMap_eq_nil_iff, fired_eq_nil_iff]
    rw [run]
    obtain ⟨quiet, rfl, rfl⟩ | ⟨loud, rfl, rfl⟩ := built
    · refine exists_accounts_tryRules inner rfl ?_ (fun _ => ⟨rfl, rfl⟩) ?_
      · exact (Rulebook.quiet_outputs results quiet).symm.trans inner.outputs
      · rintro ⟨w, member, noise⟩
        exact absurd (silent.mp quiet w member) noise
    · refine exists_accounts_tryRules inner rfl inner.outputs ?_ fun _ => ⟨rfl, rfl⟩
      exact fun quiet => absurd (silent.mpr quiet) loud

end

end Visit

/-- Where it applies, the rule draws ids from the counter onwards, so that none of them is drawn again. -/
def Rule.DrawsOnwards (rule : Rule α) : Prop :=
  ∀ f n, rule.pattern f = true → n ≤ (rule.transform f n).2

namespace Visit

variable {book : Rulebook α} {v : Visit α}

theorem Follows.onwards (follows : v.Follows book)
    (draws : ∀ rule ∈ book.rules, rule.DrawsOnwards) : v.start ≤ v.ready ∧ v.ready ≤ v.stop := by
  constructor
  · by_cases quiet : ∀ w ∈ v.inner, w.Quiet
    · exact (follows.untouched quiet).2.ge
    · have loud : ∃ w ∈ v.inner, ¬w.Quiet := by simpa using quiet
      rw [(follows.renewed loud).2]
      exact Nat.le_succ _
  · cases fires : v.rule? with
    | none => exact (follows.kept fires).2.ge
    | some rule =>
      obtain ⟨registered, applies⟩ := Rulebook.firstMatch?_eq_some (follows.matched.symm.trans fires)
      have onwards := draws rule registered v.tried v.ready applies
      rwa [follows.replaced rule fires] at onwards

end Visit

namespace Rulebook

theorem standard_drawsOnwards [Scalar α] (precision : α) :
    ∀ rule ∈ (standard precision).rules, rule.DrawsOnwards := fun rule member _ _ applies =>
  (standard_keeps Formula.unrestricted_hereditary precision rule member (fun _ _ => trivial)
    applies).onwards

/-- What a pass does, for every rulebook and every formula. It fires nothing exactly where no rule applies
to any node, and leaves such a formula as it is, ids included. In general the rules that fire are those
of one visit to every node in postorder, each the first that applies to the node over what is left of its
children, which is one of the greatest priority; where none fires, the node stays as it is if nothing has
fired below it, and is otherwise built anew with the same head over what is left of its children. Ids are
drawn in the order of the visits, so a new one is drawn once. -/
theorem applyOnce_visits (book : Rulebook α) (f : Formula α) (n : Nat) :
    let outcome := book.applyOnce f n
    let fired := outcome.1.fired
    (fired = [] ↔ book.Normal f) ∧ (fired = [] → outcome.1.output = f) ∧
      fired.length ≤ f.nodeCount ∧
      ∃ v, Visit.Accounts book n f outcome v ∧
        (book.Registered → ∀ w ∈ v.postorder, ∀ rule, w.rule? = some rule →
          ∀ other ∈ book.rules, other.pattern w.tried = true → other.priority ≤ rule.priority) ∧
        ((∀ rule ∈ book.rules, rule.DrawsOnwards) →
          (∀ w ∈ v.postorder, n ≤ w.start ∧ w.start ≤ w.ready ∧ w.ready ≤ w.stop) ∧
            v.postorder.Pairwise fun w x => w.stop ≤ x.start) := by
  intro outcome fired
  obtain ⟨v, account⟩ := Visit.exists_accounts book f n
  refine ⟨quiet_iff_normal, fun quiet => (quiet_pass quiet).1, ?_, v, account, ?_, ?_⟩
  · calc
      fired.length = v.fired.length := congrArg List.length account.fired
      _ ≤ v.postorder.length := List.length_filterMap_le _ _
      _ = f.postorder.length := by rw [← account.sites, List.length_map]
      _ = f.nodeCount := by rw [f.postorder_perm.length_eq, f.nodeCount_eq]
  · intro registered w member rule fires
    exact registered.descending.firstMatch?_greatest
      ((account.follows w member).matched.symm.trans fires)
  · intro draws
    have onwards w member := (account.follows w member).onwards draws
    obtain ⟨later, apart⟩ :=
      account.consecutive.onwards fun w member => (onwards w member).1.trans (onwards w member).2
    exact ⟨fun w member => ⟨later w member, onwards w member⟩, apart⟩

/-- A sum of numbers folds, and the product with it is built anew. -/
theorem applyOnce_visits_product :
    let book := standard (1e-10 : Float)
    let number (v : Float) : Formula Float := .node "number" ⟨.constant, some v, none, none⟩ []
    let unknown : Formula Float := .node "unknown" ⟨.var, none, some "x", none⟩ []
    let sum := Formula.node "sum" ⟨.operator, none, some "+", none⟩ [number 1, number 2]
    let product := Formula.node "product" ⟨.operator, none, some "*", none⟩ [sum, unknown]
    (book.applyOnce product 7).1.fired = ["constant-fold-add"] ∧ ¬book.Normal product ∧
      ∃ v, Visit.Accounts book 7 product (book.applyOnce product 7) v ∧
        (∀ w ∈ v.postorder, ∀ rule, w.rule? = some rule →
          ∀ other ∈ book.rules, other.pattern w.tried = true → other.priority ≤ rule.priority) ∧
        (∀ w ∈ v.postorder, 7 ≤ w.start ∧ w.start ≤ w.ready ∧ w.ready ≤ w.stop) ∧
          v.postorder.Pairwise fun w x => w.stop ≤ x.start := by
  intro book number unknown sum product
  have fired : (book.applyOnce product 7).1.fired = ["constant-fold-add"] := by decide +kernel
  obtain ⟨silent, -, -, v, account, first, onwards⟩ := applyOnce_visits book product 7
  refine ⟨fired, fun normal => ?_, v, account, first (ofList_registered _),
    onwards (standard_drawsOnwards _)⟩
  exact List.cons_ne_nil _ _ (fired.symm.trans (silent.mpr normal))

end Rulebook
end FormulaLab
