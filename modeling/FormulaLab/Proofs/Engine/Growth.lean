import FormulaLab.Proofs.Engine.Phases
import FormulaLab.Proofs.Expansion.Growth
import FormulaLab.Proofs.Population.Succession

/-! How much a run adds to an engine. It asks for one expansion of each component of its vector, raises
the vector to twice its dimension, and records at most as many rounds as it is given. -/

namespace FormulaLab

namespace Dimension

variable {α : Type} [Scalar α] {vector elevated : List α} {target : Nat}

theorem elevate_length (done : elevate vector target = .ok elevated) : elevated.length = target := by
  rw [elevate] at done
  split at done
  · contradiction
  next upwards =>
    split at done
    · contradiction
    · cases done
      rw [raise, List.length_append, List.length_map, List.length_range]
      omega

end Dimension

theorem Selector.evolve_history {α : Type} [Scalar α] (mutator : Mutator α) (generations : Nat)
    (population : List (Candidate α)) (selector : Selector α) (n : Nat) :
    (selector.evolve mutator generations population n).1.2.history.length ≤
      selector.history.length + generations := by
  obtain ⟨litters, run⟩ := exists_unfolds mutator generations population selector n
  have grown := congrArg List.length run.recorded
  have few := run.length_le
  rw [List.length_append] at grown
  change (evolveRounds mutator generations population selector n).1.2.history.length ≤ _
  omega

namespace Engine

section Run

variable {α : Type} [Scalar α] {engine : Engine α}

theorem initialPopulation_history (index : Nat) (syntheses : List (Analysis α)) (selector : Selector α) :
    (initialPopulation index syntheses selector).2.history = selector.history := by
  induction syntheses generalizing index selector with
  | nil => rfl
  | cons synthesis rest ih => exact ih (index + 1) _

theorem evolutionPhase_history (engine : Engine α) (syntheses : List (Analysis α)) (generations n : Nat) :
    (engine.evolutionPhase syntheses generations n).1.2.selector.history.length ≤
      engine.selector.history.length + generations := by
  rw [← initialPopulation_history 0 syntheses engine.selector]
  exact Selector.evolve_history _ generations _ _ n

/-- The numbers of a run: an expansion of each component, and the vector in twice its dimension. -/
theorem numericPhase_growth (short : engine.expander.Short) (vector : List α) (depth : Nat) :
    let phase := engine.numericPhase vector depth
    phase.2.selector = engine.selector ∧
      engine.expander.Adds vector.length (phase.1.map (·.expansions), phase.2.expander) ∧
      ∀ numeric, phase.1 = .ok numeric → numeric.elevated.length = vector.length * 2 := by
  have extended := short.extendAll depth vector
  intro phase
  simp only [phase, numericPhase]
  generalize Expander.extendAll depth vector engine.expander = all at extended ⊢
  obtain ⟨answer, expander⟩ := all
  cases answer with
  | error e => exact ⟨rfl, extended, nofun⟩
  | ok expansions =>
    cases raised : Dimension.elevate vector (vector.length * 2) with
    | error e => exact ⟨rfl, extended.failed e, nofun⟩
    | ok elevated =>
      cases lowered : Dimension.reduce vector (max (vector.length / 2) 1) with
      | error e => exact ⟨rfl, extended.failed e, nofun⟩
      | ok reduced =>
        refine ⟨rfl, extended, fun numeric done => ?_⟩
        cases done
        exact Dimension.elevate_length raised

theorem run_growth [NumberText α] (short : engine.expander.Short) (vector : List α)
    (options : RunOptions) (n : Nat) :
    let ran := (engine.run vector options n).1
    ran.2.selector.history.length ≤ engine.selector.history.length + options.generations ∧
      engine.expander.Adds vector.length (ran.1.map (·.numeric.expansions), ran.2.expander) ∧
      ∀ report, ran.1 = .ok report → report.numeric.elevated.length = vector.length * 2 := by
  obtain ⟨selector, adds, elevated⟩ := numericPhase_growth short vector options.depth
  intro ran
  simp only [ran, run]
  split
  · exact ⟨Nat.le_add_right _ _, (Expander.Adds.refused short _).mono (Nat.zero_le _), nofun⟩
  · generalize engine.numericPhase vector options.depth = phase at selector adds elevated ⊢
    obtain ⟨answer, middle⟩ := phase
    dsimp only at selector adds elevated
    rw [← selector]
    cases answer with
    | error e => exact ⟨Nat.le_add_right _ _, adds.failed _, nofun⟩
    | ok numeric =>
      simp only [bind, StateT.bind]
      generalize formulaPhase middle vector options.mode n = formed
      obtain ⟨formula, m⟩ := formed
      cases formula with
      | error e => exact ⟨Nat.le_add_right _ _, adds.failed _, nofun⟩
      | ok formula =>
        have evolved := evolutionPhase_history middle formula.syntheses options.generations m
        refine ⟨evolved, adds.succeeded, fun report done => ?_⟩
        cases done
        exact elevated numeric rfl

end Run

end Engine

end FormulaLab
