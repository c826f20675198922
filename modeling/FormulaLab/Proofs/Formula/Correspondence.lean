import FormulaLab.Formula.Leaf
import FormulaLab.Formula.Synthesis
import FormulaLab.Proofs.Formula.Likeness

/-! Drawing ids from two counters. Computations correspond when they give related results from counters
that draw related ids, and formulas built alike out of alike formulas are alike. -/

namespace FormulaLab

variable {β γ δ ζ : Type} {ids : String → String → Prop}

namespace Fresh

/-- From these counters on related ids are drawn. -/
def Aligned (ids : String → String → Prop) (m n : Nat) : Prop :=
  ∀ k, ids (nodeId (m + k)) (nodeId (n + k))

def Corresponds (ids : String → String → Prop) (R : β → γ → Prop) (x : Fresh β) (y : Fresh γ) : Prop :=
  ∀ m n, Aligned ids m n → R (x m).1 (y n).1 ∧ Aligned ids (x m).2 (y n).2

variable {R : β → γ → Prop} {S : δ → ζ → Prop} {x : Fresh β} {y : Fresh γ}

theorem Corresponds.pure {a : β} {b : γ} (related : R a b) :
    Corresponds ids R (pure a) (pure b) :=
  fun _ _ aligned => ⟨related, aligned⟩

theorem Corresponds.bind {next : β → Fresh δ} {next' : γ → Fresh ζ}
    (first : Corresponds ids R x y)
    (second : ∀ a b, R a b → Corresponds ids S (next a) (next' b)) :
    Corresponds ids S (x >>= next) (y >>= next') := by
  intro m n aligned
  obtain ⟨related, after⟩ := first m n aligned
  exact second _ _ related _ _ after

theorem Corresponds.map {f : β → δ} {g : γ → ζ} (first : Corresponds ids R x y)
    (second : ∀ a b, R a b → S (f a) (g b)) : Corresponds ids S (f <$> x) (g <$> y) := by
  intro m n aligned
  obtain ⟨related, after⟩ := first m n aligned
  exact ⟨second _ _ related, after⟩

theorem Corresponds.mapM {draw : β → Fresh δ} {draw' : γ → Fresh ζ}
    (each : ∀ a b, R a b → Corresponds ids S (draw a) (draw' b)) {as : List β} {bs : List γ}
    (related : List.Forall₂ R as bs) :
    Corresponds ids (List.Forall₂ S) (as.mapM draw) (bs.mapM draw') := by
  induction related with
  | nil => exact .pure .nil
  | cons first _ ih =>
    rw [List.mapM_cons, List.mapM_cons]
    refine (each _ _ first).bind fun c d head => ?_
    refine ih.bind fun cs ds tail => ?_
    exact .pure (.cons head tail)

theorem Corresponds.foldlM {step : δ → β → Fresh δ} {step' : ζ → γ → Fresh ζ}
    (each : ∀ c d a b, S c d → R a b → Corresponds ids S (step c a) (step' d b))
    {as : List β} {bs : List γ} (related : List.Forall₂ R as bs) {c : δ} {d : ζ} (start : S c d) :
    Corresponds ids S (as.foldlM step c) (bs.foldlM step' d) := by
  induction related generalizing c d with
  | nil => exact .pure start
  | cons first _ ih =>
    rw [List.foldlM_cons, List.foldlM_cons]
    exact (each _ _ _ _ start first).bind fun _ _ reached => ih reached

end Fresh

open Fresh (Corresponds)

namespace Formula

variable {α : Type} {heads : Head α → Head α → Prop}

theorem build_corresponds {h k : Head α} {fs gs : List (Formula α)} (said : heads h k)
    (below : List.Forall₂ (Alike ids heads) fs gs) :
    Corresponds ids (Alike ids heads) (build h fs) (build k gs) := by
  intro m n aligned
  refine ⟨.node (aligned 0) said below, fun i => ?_⟩
  have next := aligned (i + 1)
  rwa [Nat.add_comm i 1, ← Nat.add_assoc, ← Nat.add_assoc] at next

variable [Head.Likeness heads] {f g a b c d : Formula α}

/-- Nodes built with the same head over alike formulas are alike. -/
theorem build_same (h : Head α) {fs gs : List (Formula α)}
    (below : List.Forall₂ (Alike ids heads) fs gs) :
    Corresponds ids (Alike ids heads) (build h fs) (build h gs) :=
  build_corresponds (Head.Likeness.refl h) below

theorem binary_corresponds (op : String) (left : Alike ids heads a b) (right : Alike ids heads c d) :
    Corresponds ids (Alike ids heads) (binary op a c) (binary op b d) :=
  build_same _ (.cons left (.cons right .nil))

theorem leaf_corresponds [Scalar α] (v : α) : Corresponds ids (Alike ids heads) (leaf v) (leaf v) := by
  unfold leaf
  split
  · exact build_same _ .nil
  · exact build_same _ .nil

omit [Head.Likeness heads] in
theorem substituteFirstAmong?_corresponds {fs gs : List (Formula α)}
    (each : List.Forall₂ (fun f g => Alike ids heads f g ∧ Corresponds ids
      (Option.Rel (Alike ids heads)) (substituteFirst? a f) (substituteFirst? b g)) fs gs) :
    Corresponds ids (Option.Rel (List.Forall₂ (Alike ids heads)))
      (substituteFirstAmong? a fs) (substituteFirstAmong? b gs) := by
  induction each with
  | nil => exact .pure .none
  | cons first later ih =>
    have rest := later.imp fun _ _ both => both.1
    unfold substituteFirstAmong?
    refine first.2.bind fun found found' same => ?_
    cases same with
    | some replaced => exact .pure (.some (.cons replaced rest))
    | none =>
      refine ih.bind fun among among' same => ?_
      cases same with
      | some replaced => exact .pure (.some (.cons first.1 replaced))
      | none => exact .pure .none

theorem substituteFirst?_corresponds (replacement : Alike ids heads a b) (alike : Alike ids heads f g) :
    Corresponds ids (Option.Rel (Alike ids heads)) (substituteFirst? a f) (substituteFirst? b g) := by
  induction f generalizing g with
  | node id head children ih =>
    cases alike with
    | node i h below =>
      unfold substituteFirst?
      rw [(Head.Likeness.alike _ _ h).kind]
      split
      · exact .pure (.some replacement)
      · have each := forall₂_imp_of_mem
          (fun child member _ alike => And.intro alike (ih child member alike)) below
        refine (substituteFirstAmong?_corresponds each).bind fun among among' same => ?_
        cases same with
        | some replaced => exact (build_corresponds h replaced).map fun _ _ => .some
        | none => exact .pure .none

theorem compose_corresponds (inner : Alike ids heads a b) (outer : Alike ids heads c d) :
    Corresponds ids (Alike ids heads) (compose a c) (compose b d) := by
  refine (substituteFirst?_corresponds inner outer).bind fun found found' same => ?_
  cases same with
  | some replaced => exact .pure replaced
  | none => exact .pure outer

theorem foldlM_compose_corresponds {fs gs : List (Formula α)}
    (alike : List.Forall₂ (Alike ids heads) fs gs) (first : Alike ids heads a b) :
    Corresponds ids (Alike ids heads) (fs.foldlM compose a) (gs.foldlM compose b) := by
  refine Corresponds.foldlM ?_ alike first
  intro c d a b inner outer
  exact compose_corresponds inner outer

theorem combine_corresponds [Scalar α] (mode : SynthesisMode) (left : Alike ids heads a b)
    (right : Alike ids heads c d) :
    Corresponds ids (Alike ids heads) (combine mode a c) (combine mode b d) := by
  cases mode with
  | add | mul => exact binary_corresponds _ left right
  | compose => exact compose_corresponds left right
  | dual =>
    unfold combine
    rw [left.closedValue, right.closedValue]
    exact build_same _ (.cons left (.cons right .nil))

end Formula
end FormulaLab
