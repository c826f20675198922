import FormulaLab.Proofs.Engine.Outcome

/-! Engines and their settings. Exactly the accepted settings give an engine, and they hold their own
defaults, as written, to their limits. -/

namespace FormulaLab

namespace Settings

/-- How the defaults of accepted settings lie within their limits. -/
structure Consistent (settings : Settings Float) : Prop where
  populationLimit : settings.populationLimit ≠ 0
  vectorLength : 0 < settings.limits.maxVectorLength
  turns : 0 < settings.limits.maxTurns
  generations : 0 < settings.limits.maxGenerations
  defaultDepth : settings.limits.defaultDepth ≤ settings.maxDepth
  defaultGenerations : settings.limits.defaultGenerations ≤ settings.limits.maxGenerations
  doubled : min maxCount (2 * settings.limits.maxVectorLength) ≤ settings.limits.maxTargetDimension

theorem consistent_of_accepted {settings : Settings Float} (accepted : settings.fault? = none) :
    settings.Consistent := by
  simp only [fault?] at accepted
  split_ifs at accepted with precision population length limits defaults
  constructor <;> omega

end Settings

namespace Engine

/-- The settings of an engine are accepted, and its expander follows them. -/
structure Configured (engine : Engine Float) : Prop where
  accepted : engine.settings.fault? = none
  shared : engine.expander.settings = engine.settings.numeric

/-- The standard criteria and constraints are accepted by any selector. -/
theorem standardSelector_isOk {settings : Settings Float} (some : settings.populationLimit ≠ 0) :
    (Selector.standard settings.selection).isOk = true := by
  have bare : Selector.bare settings.selection =
      .ok ⟨settings.selection, .empty, [], .standard, [], 1⟩ := if_neg some
  have added : (CriteriaSet.empty.addAll (Criterion.standard (α := Float))).isOk = true := by
    decide +kernel
  have limited : (Constraint.standard 64 16 (0.1 : Float)).isOk = true := by decide +kernel
  rw [Selector.standard, bare]
  simp only [bind, Except.bind, Settings.selection, SelectionSettings.standard]
  generalize CriteriaSet.empty.addAll (Criterion.standard (α := Float)) = criteria at added ⊢
  generalize Constraint.standard 64 16 (0.1 : Float) = constraints at limited ⊢
  cases criteria with
  | error e => contradiction
  | ok criteria =>
    cases constraints with
    | error e => contradiction
    | ok constraints => rfl

/-- Exactly the accepted settings give an engine. -/
theorem new_isOk_iff {settings : Settings Float} :
    (Engine.new settings).isOk = true ↔ settings.fault? = none := by
  unfold Engine.new
  cases accepted : settings.fault? with
  | some fault => exact iff_of_false Bool.false_ne_true nofun
  | none =>
    have selector := standardSelector_isOk (Settings.consistent_of_accepted accepted).populationLimit
    generalize Selector.standard settings.selection = built at selector ⊢
    cases built with
    | error e => contradiction
    | ok selector => exact iff_of_true rfl rfl

theorem exists_new {settings : Settings Float} (accepted : settings.fault? = none) :
    ∃ engine, Engine.new settings = .ok engine := by
  have new := new_isOk_iff.mpr accepted
  cases built : Engine.new settings with
  | error e =>
    rw [built] at new
    contradiction
  | ok engine => exact ⟨engine, rfl⟩

theorem new_configured {settings : Settings Float} {engine : Engine Float}
    (built : Engine.new settings = .ok engine) : engine.settings = settings ∧ engine.Configured := by
  unfold Engine.new at built
  split at built
  · contradiction
  next accepted =>
    split at built
    · contradiction
    · cases built
      exact ⟨rfl, accepted, rfl⟩

theorem Configured.of_same {engine next : Engine Float} (configured : engine.Configured)
    (same : engine.SameSettings next) : next.Configured := by
  obtain ⟨settings, expander⟩ := same
  constructor
  · rw [settings]
    exact configured.accepted
  · rw [settings, expander]
    exact configured.shared

end Engine

end FormulaLab
