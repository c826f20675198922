import FormulaLab.Engine.Run
import FormulaLab.Proofs.Expansion.Transparency
import FormulaLab.Proofs.Population.Relabeling
import FormulaLab.Proofs.Rulebook.Correspondence

/-! The phases of a run on two engines of the same settings. What the engines have been used for shows in
the labels of the report alone, and in the origins of remembered expansions. -/

namespace FormulaLab

open Fresh (Corresponds)

variable {α : Type}

def Reduction.rename (names : String → String) (x : Reduction α) : Reduction α :=
  { x with
    input := x.input.rename names
    output := x.output.rename names
    analysis := x.analysis.rename names }

def FormulaPhase.rename (names : String → String) (x : FormulaPhase α) : FormulaPhase α where
  formulas := x.formulas.map (·.rename names)
  syntheses := x.syntheses.map (·.rename names)
  chain := x.chain.rename names
  reductions := x.reductions.map (·.rename names)

/-- The same vectors, the expansions being related in some way. -/
structure NumericPhase.Alike (R : Expansion α → Expansion α → Prop) (x y : NumericPhase α) : Prop where
  expansions : List.Forall₂ R x.expansions y.expansions
  elevated : y.elevated = x.elevated
  reduced : y.reduced = x.reduced

/-- The same report under other labels, its expansions being related in some way. -/
structure RunReport.Matches (labels : Relabeling) (R : Expansion α → Expansion α → Prop)
    (x y : RunReport α) : Prop where
  input : y.input = x.input
  options : y.options = x.options
  numeric : x.numeric.Alike R y.numeric
  formula : y.formula = x.formula.rename labels.names
  evolution : y.evolution = x.evolution.relabel labels
  summary : y.summary = x.summary

theorem Reduction.Alike.eq_rename {names : String → String} {x y : Reduction α}
    (alike : x.Alike (Named names) (· = ·) y) : y = x.rename names := by
  obtain ⟨input, output, steps, converged, analysis⟩ := alike
  cases y
  simp only [rename] at *
  rw [input.eq_rename, output.eq_rename, analysis.eq_rename, steps, converged]

namespace Engine

variable [Scalar α] {names : String → String} {labels : Relabeling}

/-! Formulas. -/

section Formulas

variable {ids : String → String → Prop} {heads : Head α → Head α → Prop} [Head.Likeness heads]

theorem combineNeighbours_corresponds (mode : SynthesisMode) (precision : α) {fs gs : List (Formula α)}
    (alike : List.Forall₂ (Formula.Alike ids heads) fs gs) :
    Corresponds ids (List.Forall₂ (Analysis.Alike ids heads)) (combineNeighbours mode precision fs)
      (combineNeighbours mode precision gs) := by
  induction alike with
  | nil => exact .pure .nil
  | cons first rest ih =>
    cases rest with
    | nil => exact .pure .nil
    | cons second rest =>
      refine (Formula.combine_corresponds mode first second).bind fun c d combined => ?_
      refine ih.bind fun cs ds others => ?_
      exact .pure (.cons (combined.analyze precision) others)

theorem synthesize_corresponds (mode : SynthesisMode) (precision : α) {fs gs : List (Formula α)}
    (alike : List.Forall₂ (Formula.Alike ids heads) fs gs) :
    Corresponds ids (List.Forall₂ (Analysis.Alike ids heads)) (synthesize mode precision fs)
      (synthesize mode precision gs) := by
  rcases alike with _ | ⟨first, _ | ⟨second, rest⟩⟩
  · exact .pure .nil
  · exact .pure (.cons (first.analyze precision) .nil)
  · exact combineNeighbours_corresponds mode precision (.cons first (.cons second rest))

omit [Scalar α] in
theorem chain_corresponds {fs gs : List (Formula α)}
    (alike : List.Forall₂ (Formula.Alike ids heads) fs gs) :
    Agree (Corresponds ids (Formula.Alike ids heads)) (Formula.chain fs) (Formula.chain gs) := by
  cases alike with
  | nil => exact .error _
  | cons first rest => exact .ok (Formula.foldlM_compose_corresponds rest first)

end Formulas

/-- Engines of the same settings and rules. -/
structure SameRules (a b : Engine α) : Prop where
  settings : b.settings = a.settings
  rulebook : b.rulebook = a.rulebook

variable {a b : Engine α}

theorem formulaPhase_relabel (standard : a.rulebook.Respects (Named names) (· = ·))
    (same : a.SameRules b) (vector : List α) (mode : SynthesisMode) :
    Corresponds (Named names) (Agree fun x y => y = x.rename names) (a.formulaPhase vector mode)
      (b.formulaPhase vector mode) := by
  have leaves : Corresponds (Named names) (List.Forall₂ (Formula.Alike (Named names) (· = ·)))
      (vector.mapM Formula.leaf) (vector.mapM Formula.leaf) := by
    refine Corresponds.mapM (R := (· = ·)) ?_ (List.forall₂_same.mpr fun _ _ => rfl)
    rintro v _ rfl
    exact Formula.leaf_corresponds v
  unfold formulaPhase
  rw [same.settings]
  refine leaves.bind fun formulas formulas' alike => ?_
  refine (synthesize_corresponds mode _ alike).bind fun syntheses syntheses' analysed => ?_
  have chains := chain_corresponds alike
  generalize Formula.chain formulas = chain, Formula.chain formulas' = chain' at chains
  cases chains with
  | error e => exact .pure (.error e)
  | ok chained =>
    refine chained.bind fun f g composed => ?_
    have reductions : Corresponds (Named names) (List.Forall₂ (Reduction.Alike (Named names) (· = ·)))
        (syntheses.mapM fun synthesis => a.reduce synthesis.formula)
        (syntheses'.mapM fun synthesis => b.reduce synthesis.formula) := by
      refine Corresponds.mapM ?_ analysed
      intro x y alike
      unfold reduce
      rw [same.settings, same.rulebook]
      exact standard.reduce _ _ alike.formula
    refine reductions.bind fun xs ys reduced => ?_
    refine .pure (.ok ?_)
    rw [FormulaPhase.rename, ← (composed.analyze _).eq_rename,
      ← eq_map_of_forall₂ (alike.imp fun _ _ same => same.eq_rename),
      ← eq_map_of_forall₂ (analysed.imp fun _ _ same => same.eq_rename),
      ← eq_map_of_forall₂ (reduced.imp fun _ _ same => same.eq_rename)]

/-! Populations. -/

variable {base s t : Selector α}

theorem initialPopulation_relabel (index : Nat) (syntheses : List (Analysis α))
    (shifted : base.Shifted labels s t) :
    let made := initialPopulation index syntheses s
    let made' := initialPopulation index (syntheses.map (·.rename labels.names)) t
    made'.1 = made.1.map (·.relabel labels) ∧ base.Shifted labels made.2 made'.2 := by
  induction syntheses generalizing index s t with
  | nil => exact ⟨rfl, shifted⟩
  | cons synthesis rest ih =>
    have next : base.Shifted labels (s.candidate synthesis (Fitness.initial synthesis)).2
        (t.candidate (synthesis.rename labels.names) (Fitness.initial synthesis)).2 := by
      constructor
      · exact shifted.first.trans rfl
      · exact shifted.second.trans rfl
      · simp only [Selector.candidate, shifted.nextId]
        omega
      · exact shifted.history
    obtain ⟨others, last⟩ := ih (index + 1) next
    refine ⟨?_, last⟩
    simp only [initialPopulation, List.map_cons]
    refine congr (congrArg List.cons ?_) others
    rw [Candidate.relabel_withMetadata, Candidate.relabel_withMetadata, if_neg (by decide),
      if_neg (by decide)]
    simp only [Selector.candidate, Candidate.relabel, shifted.nextId, shifted.history]
    rfl

theorem goldenMutator_ignores (precision : α) : Selector.Ignores (goldenMutator precision) labels := by
  intro parent
  have drawn (v : α) : Corresponds (Named labels.names) (Formula.Alike (Named labels.names) (· = ·))
      (Formula.leaf v) (Formula.leaf v) := Formula.leaf_corresponds v
  refine (drawn _).bind fun scaled scaled' alike => .pure ?_
  have analysed := (alike.analyze precision).eq_rename
  have shifted : (Json.ofNat parent.id).shifted labels.candidates =
      .ofNat (parent.id + labels.candidates) := congrArg Json.int (Nat.cast_add _ _).symm
  have noted : labels.notes (parent.metadata.insert "parent" (.ofNat parent.id)) =
      (labels.notes parent.metadata).insert "parent" (.ofNat (parent.id + labels.candidates)) := by
    rw [Relabeling.notes_insert, if_pos rfl, shifted]
  simp only [analysed, Candidate.relabel, Candidate.withMetadata, noted]
  rfl

theorem evolutionPhase_relabel (same : a.SameRules b) (blind : base.Blind labels)
    (shifted : base.Shifted labels a.selector b.selector) (syntheses : List (Analysis α))
    (generations : Nat) :
    Corresponds (Named labels.names) (fun x y => y.1 = x.1.relabel labels)
      (a.evolutionPhase syntheses generations)
      (b.evolutionPhase (syntheses.map (·.rename labels.names)) generations) := by
  obtain ⟨populated, next⟩ := initialPopulation_relabel 0 syntheses shifted
  unfold evolutionPhase
  rw [same.settings]
  simp only [populated]
  refine (Selector.evolve_relabel (goldenMutator_ignores _) blind generations _ next).bind
    fun x y ⟨evolved, _⟩ => ?_
  exact .pure evolved

/-! Reports. -/

theorem numericPhase_alike {R : Expansion α → Expansion α → Prop} {vector : List α} {depth : Nat}
    (extended : Agree (List.Forall₂ R) (Expander.extendAll depth vector a.expander).1
      (Expander.extendAll depth vector b.expander).1) :
    Agree (NumericPhase.Alike R) (a.numericPhase vector depth).1 (b.numericPhase vector depth).1 := by
  unfold numericPhase
  generalize Expander.extendAll depth vector a.expander = x,
    Expander.extendAll depth vector b.expander = y at extended
  obtain ⟨first, expander⟩ := x
  obtain ⟨second, expander'⟩ := y
  cases extended with
  | error e => exact .error e
  | ok related =>
    simp only [bind, Except.bind]
    cases Dimension.elevate vector (vector.length * 2) with
    | error e => exact .error e
    | ok elevated =>
      cases Dimension.reduce vector (max (vector.length / 2) 1) with
      | error e => exact .error e
      | ok reduced => exact .ok ⟨related, rfl, rfl⟩

theorem numericPhase_engine (engine : Engine α) (vector : List α) (depth : Nat) :
    (engine.numericPhase vector depth).2 =
      { engine with expander := (Expander.extendAll depth vector engine.expander).2 } := by
  unfold numericPhase
  generalize Expander.extendAll depth vector engine.expander = x
  obtain ⟨answers, expander⟩ := x
  cases answers <;> rfl

variable [NumberText α]

omit [Scalar α] in
theorem summarize_relabel {R : Expansion α → Expansion α → Prop} {vector : List α} {options : RunOptions}
    {numeric numeric' : NumericPhase α} (alike : numeric.Alike R numeric') (formula : FormulaPhase α)
    (evolution : Evolution α) :
    summarize vector options numeric' (formula.rename labels.names) (evolution.relabel labels) =
      summarize vector options numeric formula evolution := by
  have steps : (formula.rename labels.names).reductions.flatMap (·.steps) =
      formula.reductions.flatMap (·.steps) := List.flatMap_map ..
  unfold summarize
  rw [steps, alike.elevated, alike.reduced, alike.expansions.length_eq]
  simp only [FormulaPhase.rename, Evolution.relabel, List.length_map, Analysis.rename,
    Formula.rename_render]
  cases evolution.best with
  | none => rfl
  | some best =>
    simp only [Option.map_some, Candidate.formula, Candidate.relabel, Analysis.rename,
      Formula.rename_render]

/-- Runs of two engines of the same settings and rules give the same report under other labels. -/
theorem run_relabel {R : Expansion α → Expansion α → Prop} {vector : List α} {options : RunOptions}
    (same : a.SameRules b) (respects : a.rulebook.Respects (Named labels.names) (· = ·))
    (blind : base.Blind labels) (shifted : base.Shifted labels a.selector b.selector)
    (extended : Agree (List.Forall₂ R) (Expander.extendAll options.depth vector a.expander).1
      (Expander.extendAll options.depth vector b.expander).1) :
    Corresponds (Named labels.names) (fun x y => Agree (RunReport.Matches labels R) x.1 y.1)
      (a.run vector options) (b.run vector options) := by
  have numbers := numericPhase_alike extended
  have after := numericPhase_engine a vector options.depth
  have after' := numericPhase_engine b vector options.depth
  unfold run
  split
  · exact .pure (.error _)
  · generalize a.numericPhase vector options.depth = x, b.numericPhase vector options.depth = y
      at numbers after after'
    obtain ⟨first, next⟩ := x
    obtain ⟨second, next'⟩ := y
    simp only at numbers after after'
    cases numbers with
    | error e => exact .pure (.error _)
    | @ok numeric numeric' alike =>
      have still : next.SameRules next' := by
        rw [after, after']
        exact ⟨same.settings, same.rulebook⟩
      have past : base.Shifted labels next.selector next'.selector := by
        rw [after, after']
        exact shifted
      have rules : next.rulebook.Respects (Named labels.names) (· = ·) := by
        rw [after]
        exact respects
      refine (formulaPhase_relabel rules still vector options.mode).bind fun formed formed' related => ?_
      cases related with
      | error e => exact .pure (.error _)
      | @ok formula _ renamed =>
        subst renamed
        refine (evolutionPhase_relabel still blind past formula.syntheses options.generations).bind
          fun (evolution, last) (evolution', last') relabeled => ?_
        simp only at relabeled
        subst relabeled
        exact .pure (.ok ⟨rfl, rfl, alike, rfl, rfl, summarize_relabel alike formula evolution⟩)

end Engine
end FormulaLab
