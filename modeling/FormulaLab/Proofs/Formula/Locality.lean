import FormulaLab.Proofs.Formula.Variables
import FormulaLab.Scalar.Binary64

/-! Evaluation is strict and local. An undefined part leaves the whole formula undefined, nothing but the
bindings of its own variables matters to a formula, and a value that is there stays when more is bound. -/

namespace FormulaLab

variable {α : Type}

/-- All bindings of the first are bindings of the second. -/
def Environment.Within (env env' : Environment α) : Prop :=
  ∀ name v, env name = some v → env' name = some v

theorem Environment.none_within (env : Environment α) : Environment.Within (fun _ => none) env :=
  fun _ v bound => absurd bound.symm (Option.some_ne_none v)

namespace Formula

/-- A value that is there stays as it is; one that is not may appear. -/
def Stays (x y : Option α) : Prop := ∀ v, x = some v → y = some v

theorem Stays.refl {x : Option α} : Stays x x := fun _ value => value

theorem allDefined_stays {xs ys : List (Option α)} (stay : List.Forall₂ Stays xs ys) :
    Stays (allDefined xs) (allDefined ys) := by
  induction stay with
  | nil => exact .refl
  | @cons x y xs ys first _ ih =>
    intro values defined
    cases x with
    | none => contradiction
    | some v =>
      obtain ⟨rest, later, rfl⟩ := Option.map_eq_some_iff.mp defined
      rw [first v rfl, allDefined, ih rest later, Option.map_some]

variable [Scalar α] {f : Formula α} {env env' : Environment α}

theorem combineValues_stays (within : env.Within env') {xs ys : List (Option α)}
    (stay : List.Forall₂ Stays xs ys) : Stays (combineValues env f xs) (combineValues env' f ys) := by
  intro v combined
  cases kind : f.kind with
  | constant =>
    rw [combineValues_constant kind] at combined ⊢
    exact combined
  | var =>
    simp only [combineValues, kind] at combined ⊢
    obtain ⟨name, symbol, bound⟩ := Option.bind_eq_some_iff.mp combined
    exact Option.bind_eq_some_iff.mpr ⟨name, symbol, within name v bound⟩
  | operator =>
    rw [combineValues_operator kind] at combined ⊢
    obtain ⟨op, symbol, known⟩ := Option.bind_eq_some_iff.mp combined
    obtain ⟨meaning, named, applied⟩ := Option.bind_eq_some_iff.mp known
    obtain ⟨operands, defined, result⟩ := Option.bind_eq_some_iff.mp applied
    rw [symbol, Option.bind_some, named, Option.bind_some, allDefined_stays stay operands defined]
    exact result
  | function =>
    simp only [combineValues, kind] at combined ⊢
    -- Only the first operand of a function is looked at.
    cases stay with
    | nil => contradiction
    | @cons x y _ _ first _ =>
      cases x with
      | none => contradiction
      | some argument =>
        rw [first argument rfl]
        exact combined
  | dual =>
    simp only [combineValues, kind] at combined ⊢
    split at combined
    next positive negative =>
      obtain _ | ⟨first, _ | ⟨second, _ | _⟩⟩ := stay
      rw [first positive rfl, second negative rfl]
      exact combined
    · contradiction

/-- A value is the same under all bindings that extend those it was found under. -/
theorem evaluate_stays (within : env.Within env') : Stays (f.evaluate env) (f.evaluate env') := by
  induction f with
  | node id head children ih =>
    intro v value
    rw [evaluate_node, evaluateNode, Option.filter_eq_some_iff] at value ⊢
    have stay : List.Forall₂ Stays (children.map (evaluate env)) (children.map (evaluate env')) := by
      rw [List.forall₂_map_left_iff, List.forall₂_map_right_iff, List.forall₂_same]
      exact ih
    exact ⟨combineValues_stays within stay v value.1, value.2⟩

/-- Evaluation is strict in formulas of complete nodes: one has no value exactly where some node of it has
none. It is local in all formulas: the value depends on the bindings of the variables that occur, stays
under more bindings, and is the same under all of them if it is there without any. -/
theorem evaluation_strict_and_local (f : Formula α) (env : Environment α) :
    (f.WellFormed → (f.evaluate env = none ↔ ∃ g ∈ f.nodes, g.evaluate env = none)) ∧
      (∀ env', (∀ name ∈ f.variableNames, env name = env' name) →
        f.evaluate env = f.evaluate env') ∧
      (∀ env', env.Within env' → ∀ v, f.evaluate env = some v → f.evaluate env' = some v) ∧
      ∀ v, f.closedValue = some v → f.evaluate env = some v := by
  refine ⟨fun wellFormed => ⟨fun undefined => ⟨f, ?_, undefined⟩, ?_⟩, ?_, ?_, ?_⟩
  · cases f with
    | node id head children => rw [nodes_node]; exact List.mem_cons_self
  · rintro ⟨g, part, undefined⟩
    rw [← Option.not_isSome_iff_eq_none]
    intro defined
    have valued := node_isSome wellFormed defined g part
    rw [undefined] at valued
    exact Bool.false_ne_true valued
  · intro env' agree
    exact evaluate_agree fun name occurs => agree name (mem_variableNames.mpr occurs)
  · intro env' within
    exact evaluate_stays within
  · exact evaluate_stays (Environment.none_within env)

/-- The larger of two numbers, of which the second is the reciprocal of an unknown. -/
def largerReciprocal : Formula Float :=
  node "larger" ⟨.operator, none, some "⊕", none⟩
    [node "two" ⟨.constant, some 2, none, none⟩ [],
      node "quotient" ⟨.operator, none, some "/", none⟩
        [node "one" ⟨.constant, some 1, none, none⟩ [],
          node "unknown" ⟨.var, none, some "x", none⟩ []]]

/-- The unknown bound to a number, and nothing else. -/
def unknownAt (v : Float) : Environment Float := fun name => if name = "x" then some v else none

/-- With the unknown at zero there is no larger one of the two; with the unknown at four there is, and it
stays when another name is bound. -/
theorem evaluation_strict_and_local_larger :
    let f := largerReciprocal
    let more : Environment Float := fun name => if name = "y" then some 7 else unknownAt 4 name
    let two : Formula Float := node "two" ⟨.constant, some 2, none, none⟩ []
    (f.WellFormed ∧ f.evaluate (unknownAt 0) = none) ∧
      ((∀ name ∈ f.variableNames, unknownAt 4 name = more name) ∧
        f.evaluate (unknownAt 4) = f.evaluate more) ∧
      ((unknownAt 4).Within more ∧ ∃ v, f.evaluate (unknownAt 4) = some v ∧ f.evaluate more = some v) ∧
      two.closedValue = some 2 ∧ two.evaluate more = some 2 := by
  intro f more two
  have wellFormed : f.WellFormed := by
    simp [WellFormed, f, largerReciprocal, Head.Fits, head, children]
  have undefined : ∃ g ∈ f.nodes, g.evaluate (unknownAt 0) = none := by
    refine ⟨node "quotient" ⟨.operator, none, some "/", none⟩
      [node "one" ⟨.constant, some 1, none, none⟩ [],
        node "unknown" ⟨.var, none, some "x", none⟩ []], by simp [f, largerReciprocal], ?_⟩
    exact Option.isNone_iff_eq_none.mp (by decide +kernel)
  have agree : ∀ name ∈ f.variableNames, unknownAt 4 name = more name := by
    intro name occurs
    obtain rfl : name = "x" := List.mem_singleton.mp occurs
    rfl
  have within : (unknownAt 4).Within more := by
    intro name v bound
    have unknown : name = "x" := by
      by_contra other
      rw [unknownAt, if_neg other] at bound
      contradiction
    rw [← agree name (unknown ▸ List.mem_singleton_self _), bound]
  have defined : (f.evaluate (unknownAt 4)).isSome := by decide +kernel
  obtain ⟨v, value⟩ := Option.isSome_iff_exists.mp defined
  have closed : two.closedValue = some 2 := rfl
  exact ⟨⟨wellFormed, ((evaluation_strict_and_local f (unknownAt 0)).1 wellFormed).mpr undefined⟩,
    ⟨agree, (evaluation_strict_and_local f (unknownAt 4)).2.1 more agree⟩,
    ⟨within, v, value, (evaluation_strict_and_local f (unknownAt 4)).2.2.1 more within v value⟩,
    closed, (evaluation_strict_and_local two more).2.2.2 2 closed⟩

end Formula
end FormulaLab
