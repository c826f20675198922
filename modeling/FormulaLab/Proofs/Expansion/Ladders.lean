import FormulaLab.Proofs.Expansion.Cancellation

/-! Ladders of expansions are climbed to their last level or refused before the first. Their levels are
linked by their first terms, also where the memory already knows some of them under the other zero. -/

namespace FormulaLab

open Scalar (NumericEquality)

variable {α : Type} [Scalar α]

namespace Expansion

/-- The next level starts from the first term of this one, up to the sign of a zero. -/
def Seeds (level next : Expansion α) : Prop :=
  ∃ first, level.terms.head? = some first ∧ Expander.sameOrigin next.origin first = true

/-- Levels at `count` depths from one depth on, linked from an origin. -/
structure Linked (depth count : Nat) (origin : α) (levels : List (Expansion α)) : Prop where
  depths : levels.map (·.depth) = List.range' depth count
  first : ∀ level ∈ levels.head?, Expander.sameOrigin level.origin origin = true
  seeded : levels.IsChain Seeds
  sizes : ∀ level ∈ levels, level.terms.length =
    if level.origin == 0 then 2 * level.depth + 1 else 2 * level.depth - 1
  /-- There is always a first term to go on with. -/
  nonempty : ∀ level ∈ levels, level.terms ≠ []

variable {precision origin : α} {depth count : Nat} {level : Expansion α}
  {levels : List (Expansion α)}

theorem Linked.length (linked : Linked depth count origin levels) : levels.length = count := by
  have size := congrArg List.length linked.depths
  rwa [List.length_map, List.length_range'] at size

theorem Linked.cons (some : 0 < depth) (computed : level = compute precision level.origin depth)
    (same : Expander.sameOrigin level.origin origin = true)
    (linked : Linked (depth + 1) count (level.terms.headD 0) levels) :
    Linked depth (count + 1) origin (level :: levels) := by
  have rank : level.depth = depth := congrArg Expansion.depth computed
  have terms : level.terms = termsOf precision level.origin depth :=
    congrArg Expansion.terms computed
  have nonempty : level.terms ≠ [] := terms ▸ termsOf_ne_nil precision level.origin some
  obtain ⟨first, rest, split⟩ := List.exists_cons_of_ne_nil nonempty
  constructor
  · rw [List.map_cons, linked.depths, rank, List.range'_succ]
  · rintro _ ⟨⟩
    exact same
  · refine List.isChain_cons.mpr ⟨fun next member => ⟨first, by rw [split, List.head?_cons], ?_⟩,
      linked.seeded⟩
    have followed := linked.first next member
    rwa [split, List.headD_cons] at followed
  · refine List.forall_mem_cons.mpr ⟨?_, linked.sizes⟩
    rw [rank, terms]
    exact termsOf_length precision level.origin some
  · exact List.forall_mem_cons.mpr ⟨nonempty, linked.nonempty⟩

/-- Computed levels that agree with those of a ladder without memory are linked as well. -/
theorem Linked.of_ladder (some : 0 < depth)
    (computed : ∀ level ∈ levels, level = compute precision level.origin level.depth)
    (alike : List.Forall₂ Alike levels (ladder precision count depth origin)) :
    Linked depth count origin levels := by
  -- The ladder without memory fixes the depths and the terms, and only the sign of a zero is open.
  induction count generalizing depth origin levels with
  | zero =>
    obtain rfl := List.forall₂_nil_right_iff.mp alike
    exact ⟨rfl, by simp, .nil, by simp, by simp⟩
  | succ count ih =>
    obtain ⟨level, rest, same, others, rfl⟩ := List.forall₂_cons_right_iff.mp alike
    obtain ⟨first, later⟩ := List.forall_mem_cons.mp computed
    have rank : level.depth = depth := same.depth
    rw [rank] at first
    refine .cons some first same.origin (ih (Nat.succ_pos depth) later ?_)
    rwa [same.terms]

end Expansion

namespace Expander

open Expansion (Linked)

variable {expander next : Expander α} {keys : List (α × Nat)} {origin : α} {depth count : Nat}
  {level : Expansion α} {levels : List (Expansion α)}

theorem extend_recorded (extended : expander.extend origin depth = (.ok level, next)) :
    level ∈ next.memory ∧ expander.memory ⊆ next.memory := by
  unfold extend at extended
  split at extended
  · cases extended
  · split at extended
    next known found =>
      cases extended
      exact ⟨List.mem_of_find?_eq_some found, List.Subset.refl _⟩
    next =>
      cases extended
      exact ⟨List.mem_append_right _ (List.mem_singleton_self _), List.subset_append_left _ _⟩

/-- A ladder leaves all its levels in the memory. -/
theorem climb_recorded (climbed : climb count depth origin expander = (.ok levels, next)) :
    levels ⊆ next.memory ∧ expander.memory ⊆ next.memory := by
  induction count generalizing depth origin expander levels with
  | zero =>
    cases climbed
    exact ⟨List.nil_subset _, List.Subset.refl _⟩
  | succ count ih =>
    unfold climb at climbed
    split at climbed
    next => cases climbed
    next level middle extended =>
      split at climbed
      next => cases climbed
      next rest last others =>
        cases climbed
        -- What the first level leaves in the memory is still there after the others.
        obtain ⟨kept, grown⟩ := extend_recorded extended
        obtain ⟨recorded, grows⟩ := ih others
        exact ⟨List.cons_subset.mpr ⟨grows kept, recorded⟩, List.Subset.trans grown grows⟩

theorem extendRecursive_recorded
    (answered : expander.extendRecursive origin depth = (.ok levels, next)) :
    levels ⊆ next.memory := by
  unfold extendRecursive at answered
  split at answered
  · cases answered
  · exact (climb_recorded answered).1

variable [NumericEquality α]

/-- What is in the memory is answered as it is, and the memory stays. -/
theorem Remembers.extend_kept (remembers : expander.Remembers keys)
    (member : level ∈ expander.memory) :
    expander.extend level.origin level.depth = (.ok level, expander) := by
  rw [Expander.extend, if_neg (Nat.not_lt.mpr (remembers.within level member))]
  cases known : expander.remembered? level.origin level.depth with
  | none => exact absurd (List.mem_map_of_mem member) (remembered?_eq_none known)
  | some kept =>
    obtain ⟨inside, same⟩ := remembered?_eq_some known
    rw [List.inj_on_of_nodup_map remembers.distinct inside member same]

/-- A ladder within the greatest depth is linked, and each of its levels is answered again. -/
theorem Remembers.extendRecursive_linked (remembers : expander.Remembers keys) (origin : α)
    (within : depth ≤ expander.settings.maxDepth) :
    ∃ levels next, expander.extendRecursive origin depth = (.ok levels, next) ∧
      Linked 1 depth origin levels ∧
      ∀ level ∈ levels, level.depth ≤ expander.settings.maxDepth ∧
        level = .compute expander.settings.precision level.origin level.depth ∧
        next.extend level.origin level.depth = (.ok level, next) := by
  obtain ⟨levels, next, climbed, alike, still, after⟩ := remembers.extendRecursive origin within
  have recorded := extendRecursive_recorded climbed
  have computed : ∀ level ∈ levels,
      level = .compute expander.settings.precision level.origin level.depth :=
    fun level member => still ▸ after.computed level (recorded member)
  refine ⟨levels, next, climbed, .of_ladder Nat.one_pos computed alike, fun level member => ?_⟩
  exact ⟨still ▸ after.within level (recorded member), computed level member,
    after.extend_kept (recorded member)⟩

/-- A ladder is refused if and only if its last level is too deep, and then nothing has changed. Any
other ladder has all its levels, linked from the origin, and each of them is also the answer to a
request of its own, up to the sign of a zero origin in another memory. -/
theorem ladder_all_or_nothing (settings : NumericSettings α) (calls : List (Call α)) {origin : α}
    (number : Scalar.isNaN origin = false) (depth : Nat) :
    let expander := (new settings).after calls
    ((∃ e, (expander.extendRecursive origin depth).1 = .error e) ↔ settings.maxDepth < depth) ∧
    (settings.maxDepth < depth → expander.extendRecursive origin depth =
      (.error (.depthExceeded depth settings.maxDepth), expander)) ∧
    (depth ≤ settings.maxDepth → ∃ levels next,
      expander.extendRecursive origin depth = (.ok levels, next) ∧
      levels.length = depth ∧
      (∀ level ∈ levels.head?, (level.origin == origin) = true) ∧
      Linked 1 depth origin levels ∧
      ∀ level ∈ levels, next.extend level.origin level.depth = (.ok level, next) ∧
        ∀ others : List (Call α), ∃ answer last,
          ((new settings).after others).extend level.origin level.depth = (.ok answer, last) ∧
          answer.Alike level) := by
  intro expander
  have fresh : (new settings).Remembers [] := remembers_nil settings
  obtain ⟨same, remembers⟩ := fresh.after calls
  change expander.settings = settings at same
  have refused (beyond : settings.maxDepth < depth) : expander.extendRecursive origin depth =
      (.error (.depthExceeded depth settings.maxDepth), expander) := by
    have above : expander.settings.maxDepth < depth := same.symm ▸ beyond
    rw [extendRecursive_beyond origin above, same]
  refine ⟨⟨?_, fun beyond => ⟨_, congrArg Prod.fst (refused beyond)⟩⟩, refused, ?_⟩
  · rintro ⟨e, failed⟩
    refine Nat.lt_of_not_le fun within => ?_
    obtain ⟨levels, next, climbed, -⟩ := extendRecursive_within origin (same.symm ▸ within)
    rw [climbed] at failed
    contradiction
  · intro within
    obtain ⟨levels, next, climbed, linked, answered⟩ :=
      remembers.extendRecursive_linked origin (same.symm ▸ within)
    rw [same] at answered
    refine ⟨levels, next, climbed, linked.length, ?_, linked, ?_⟩
    · intro level member
      have shared := linked.first level member
      rwa [sameOrigin, number, Bool.and_false, Bool.or_false] at shared
    · intro level member
      obtain ⟨allowed, computed, again⟩ := answered level member
      refine ⟨again, fun others => ?_⟩
      obtain ⟨kept, also⟩ := fresh.after others
      change ((new settings).after others).settings = settings at kept
      obtain ⟨answer, last, extended, matched, -⟩ := also.extend level.origin (kept.symm ▸ allowed)
      rw [kept, ← computed] at matched
      exact ⟨answer, last, extended, matched⟩

/-- A ladder from zero that finds its first level under the other zero, and one level too many. -/
theorem ladder_all_or_nothing_zeros :
    let expander := (new Settings.standard.numeric).after zeroCalls
    Scalar.isNaN (0 : Float) = false ∧
    expander.extendRecursive 0 65 = (.error (.depthExceeded 65 64), expander) ∧
    ∃ levels next, expander.extendRecursive 0 3 = (.ok levels, next) ∧
      levels.map (·.depth) = [1, 2, 3] ∧
      (∀ level ∈ levels.head?, (level.origin == 0) = true) ∧
      ∀ level ∈ levels, next.extend level.origin level.depth = (.ok level, next) := by
  intro expander
  have number : Scalar.isNaN (0 : Float) = false := by decide +kernel
  have refused := (ladder_all_or_nothing Settings.standard.numeric zeroCalls number 65).2.1
  obtain ⟨levels, next, climbed, -, first, linked, again⟩ :=
    (ladder_all_or_nothing Settings.standard.numeric zeroCalls number 3).2.2 (by decide)
  exact ⟨number, refused (by decide), levels, next, climbed, linked.depths, first,
    fun level member => (again level member).1⟩

end Expander
end FormulaLab
