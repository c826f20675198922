import FormulaLab.Proofs.Expansion.Depth
import FormulaLab.Proofs.Scalar.Equality
import FormulaLab.Settings.Basic

/-! The memory of an expander does not show. Whatever was asked before, an expansion is the one that a
new expander computes, up to the sign of a zero origin, and the memory holds one expansion for every
key that was extended since it was last cleared. -/

namespace FormulaLab

/-- Two outcomes that fail alike or succeed with related results. -/
inductive Agree {ε β γ : Type} (R : β → γ → Prop) : Except ε β → Except ε γ → Prop where
  | error (e : ε) : Agree R (.error e) (.error e)
  | ok {x : β} {y : γ} : R x y → Agree R (.ok x) (.ok y)

open Scalar (NumericEquality)

variable {α : Type} [Scalar α]

namespace Expansion

/-- The origin up to the sign of a zero. -/
def unsigned (origin : α) : α := if origin == 0 then 0 else origin

/-- What an expansion is remembered under. -/
def keyOf (origin : α) (depth : Nat) : α × Nat := (unsigned origin, depth)

def key (x : Expansion α) : α × Nat := keyOf x.origin x.depth

/-- The same expansion, but for the sign of a zero origin. -/
structure Alike (x y : Expansion α) : Prop where
  origin : Expander.sameOrigin x.origin y.origin = true
  depth : x.depth = y.depth
  terms : x.terms = y.terms
  companions : x.companions = y.companions

/-- Expansions at rising depths, each seeded by the one before, without any memory. -/
def ladder (precision : α) : (count depth : Nat) → (origin : α) → List (Expansion α)
  | 0, _, _ => []
  | count + 1, depth, origin =>
    let level := compute precision origin depth
    level :: ladder precision count (depth + 1) (level.terms.headD 0)

variable [NumericEquality α] {a b precision : α} {x y z : Expansion α} {depth : Nat}

theorem sameOrigin_iff : Expander.sameOrigin a b = true ↔ unsigned a = unsigned b := by
  have zero_beq {c : α} (zero : (c == 0) = true) : ((0 : α) == 0) = true := by
    rcases NumericEquality.eq_or_zero c 0 zero with rfl | ⟨_, zero⟩
    · exact zero
    · exact zero
  simp only [Expander.sameOrigin, Bool.or_eq_true, Bool.and_eq_true, unsigned]
  constructor
  · rintro (equal | ⟨otherA, otherB⟩)
    · rcases NumericEquality.eq_or_zero a b equal with rfl | ⟨zeroA, zeroB⟩
      · rfl
      · rw [if_pos zeroA, if_pos zeroB]
    · rw [NumericEquality.eq_of_isNaN a b otherA otherB]
  · intro same
    split at same <;> split at same
    next zeroA zeroB => exact .inl (NumericEquality.beq_of_zero a b zeroA zeroB)
    next zeroA other =>
      subst same
      exact absurd (zero_beq zeroA) other
    next other zeroB =>
      subst same
      exact absurd (zero_beq zeroB) other
    next =>
      subst same
      cases number : Scalar.isNaN a with
      | false => exact .inl (NumericEquality.beq_self a number)
      | true => exact .inr ⟨rfl, rfl⟩

theorem Alike.refl (x : Expansion α) : x.Alike x :=
  ⟨sameOrigin_iff.mpr rfl, rfl, rfl, rfl⟩

theorem Alike.symm (alike : x.Alike y) : y.Alike x :=
  ⟨sameOrigin_iff.mpr (sameOrigin_iff.mp alike.origin).symm, alike.depth.symm, alike.terms.symm,
    alike.companions.symm⟩

theorem Alike.trans (first : x.Alike y) (second : y.Alike z) : x.Alike z :=
  ⟨sameOrigin_iff.mpr ((sameOrigin_iff.mp first.origin).trans (sameOrigin_iff.mp second.origin)),
    first.depth.trans second.depth, first.terms.trans second.terms,
    first.companions.trans second.companions⟩

/-- Only the origin itself shows the sign of a zero origin. -/
theorem compute_alike (precision : α) (depth : Nat) (same : unsigned a = unsigned b) :
    (compute precision a depth).Alike (compute precision b depth) := by
  have shared := sameOrigin_iff.mpr same
  simp only [Expander.sameOrigin, Bool.or_eq_true, Bool.and_eq_true] at shared
  rcases shared with equal | ⟨otherA, otherB⟩
  · rcases NumericEquality.eq_or_zero a b equal with rfl | ⟨zeroA, zeroB⟩
    · exact .refl _
    · refine ⟨sameOrigin_iff.mpr same, rfl, ?_, ?_⟩
      · simp only [compute, termsOf, zeroA, zeroB, if_true]
      · simp only [compute, Companions.symmetric, NumericEquality.abs_zero a zeroA,
          NumericEquality.abs_zero b zeroB]
  · rw [NumericEquality.eq_of_isNaN a b otherA otherB]
    exact .refl _

end Expansion

namespace Expander

open Expansion (keyOf ladder)

/-- What can be asked of an expander. -/
inductive Call (α : Type) where
  | extend (origin : α) (depth : Nat)
  | extendRecursive (origin : α) (depth : Nat)
  | clear

/-- The expansions that a call answers with, and the expander after it. -/
def perform (expander : Expander α) : Call α → Except RangeError (List (Expansion α)) × Expander α
  | .extend origin depth =>
    ((expander.extend origin depth).1.map ([·]), (expander.extend origin depth).2)
  | .extendRecursive origin depth => expander.extendRecursive origin depth
  | .clear => (.ok [], expander.clear)

def after (expander : Expander α) (calls : List (Call α)) : Expander α :=
  calls.foldl (fun expander call => (expander.perform call).2) expander

/-- The keys extended since the last clearing, after one more call. -/
def recordKeys (settings : NumericSettings α) (keys : List (α × Nat)) : Call α → List (α × Nat)
  | .extend origin depth => if depth ≤ settings.maxDepth then keys ++ [keyOf origin depth] else keys
  | .extendRecursive origin depth =>
    if depth ≤ settings.maxDepth then
      keys ++ (ladder settings.precision depth 1 origin).map Expansion.key
    else keys
  | .clear => []

def extendedKeys (settings : NumericSettings α) (calls : List (Call α)) : List (α × Nat) :=
  calls.foldl (recordKeys settings) []

/-- The memory holds exactly the expansions of some keys, one for each. -/
structure Remembers (expander : Expander α) (keys : List (α × Nat)) : Prop where
  within : ∀ kept ∈ expander.memory, kept.depth ≤ expander.settings.maxDepth
  computed : ∀ kept ∈ expander.memory,
    kept = .compute expander.settings.precision kept.origin kept.depth
  distinct : (expander.memory.map Expansion.key).Nodup
  recorded : ∀ k, k ∈ expander.memory.map Expansion.key ↔ k ∈ keys

variable {expander : Expander α} {keys : List (α × Nat)} {depth : Nat}

theorem remembers_nil (settings : NumericSettings α) : (Expander.mk settings []).Remembers [] where
  within := by simp
  computed := by simp
  distinct := by simp
  recorded := by simp

variable [NumericEquality α]

theorem remembered?_eq_some {origin : α} {kept : Expansion α}
    (found : expander.remembered? origin depth = some kept) :
    kept ∈ expander.memory ∧ kept.key = keyOf origin depth := by
  have shared := List.find?_some found
  simp only [Bool.and_eq_true, beq_iff_eq] at shared
  refine ⟨List.mem_of_find?_eq_some found, ?_⟩
  rw [Expansion.key, keyOf, Expansion.sameOrigin_iff.mp shared.1, shared.2]
  rfl

theorem remembered?_eq_none {origin : α} (absent : expander.remembered? origin depth = none) :
    keyOf origin depth ∉ expander.memory.map Expansion.key := by
  intro member
  obtain ⟨kept, member, same⟩ := List.mem_map.mp member
  obtain ⟨origins, depths⟩ := Prod.ext_iff.mp same
  have passes := List.find?_eq_none.mp absent kept member
  exact passes (by simp [Expansion.sameOrigin_iff.mpr origins, show kept.depth = depth from depths])

/-- An expansion known under a key is the one that is computed for it. -/
theorem Remembers.alike (remembers : expander.Remembers keys) {origin : α} {kept : Expansion α}
    (found : expander.remembered? origin depth = some kept) :
    depth ≤ expander.settings.maxDepth ∧
      kept.Alike (.compute expander.settings.precision origin depth) := by
  obtain ⟨member, same⟩ := remembered?_eq_some found
  obtain ⟨origins, depths⟩ := Prod.ext_iff.mp same
  obtain rfl : kept.depth = depth := depths
  refine ⟨remembers.within kept member, ?_⟩
  rw [remembers.computed kept member]
  exact Expansion.compute_alike _ _ origins

/-- An extension within the greatest depth is answered as without memory, and recorded. -/
theorem Remembers.extend (remembers : expander.Remembers keys) (origin : α)
    (within : depth ≤ expander.settings.maxDepth) :
    ∃ answer next, expander.extend origin depth = (.ok answer, next) ∧
      answer.Alike (.compute expander.settings.precision origin depth) ∧
      next.settings = expander.settings ∧ next.Remembers (keys ++ [keyOf origin depth]) := by
  rw [Expander.extend, if_neg (Nat.not_lt.mpr within)]
  cases known : expander.remembered? origin depth with
  | some kept =>
    obtain ⟨member, same⟩ := remembered?_eq_some known
    refine ⟨kept, expander, rfl, (remembers.alike known).2, rfl, ?_⟩
    refine ⟨remembers.within, remembers.computed, remembers.distinct, fun k => ?_⟩
    have old := (remembers.recorded (keyOf origin depth)).mp (same ▸ List.mem_map_of_mem member)
    rw [remembers.recorded, List.mem_append, List.mem_singleton]
    constructor
    · exact .inl
    · rintro (recorded | rfl)
      · exact recorded
      · exact old
  | none =>
    refine ⟨_, _, rfl, .refl _, rfl, ?_⟩
    constructor
    · intro kept member
      rcases List.mem_append.mp member with old | new
      · exact remembers.within kept old
      · rw [List.mem_singleton.mp new]
        exact within
    · intro kept member
      rcases List.mem_append.mp member with old | new
      · exact remembers.computed kept old
      · rw [List.mem_singleton.mp new]
        rfl
    · rw [List.map_append]
      refine List.nodup_append'.mpr ⟨remembers.distinct, List.nodup_singleton _, ?_⟩
      exact List.disjoint_singleton.mpr (remembered?_eq_none known)
    · intro k
      rw [List.map_append, List.mem_append, List.mem_append, remembers.recorded]
      rfl

theorem Remembers.climb (remembers : expander.Remembers keys) (count : Nat) (origin : α)
    (within : depth + count ≤ expander.settings.maxDepth + 1) :
    let levels := ladder expander.settings.precision count depth origin
    ∃ answers next, Expander.climb count depth origin expander = (.ok answers, next) ∧
      List.Forall₂ Expansion.Alike answers levels ∧ next.settings = expander.settings ∧
      next.Remembers (keys ++ levels.map Expansion.key) := by
  induction count generalizing depth origin expander keys with
  | zero => exact ⟨[], expander, rfl, .nil, rfl, by simpa [ladder] using remembers⟩
  | succ count ih =>
    obtain ⟨level, next, extended, alike, same, first⟩ :=
      remembers.extend origin (show depth ≤ expander.settings.maxDepth by omega)
    have above : depth + 1 + count ≤ next.settings.maxDepth + 1 := by
      rw [same]
      omega
    obtain ⟨levels, last, climbed, others, still, all⟩ := ih first (level.terms.headD 0) above
    -- The next level starts from the same term with and without memory.
    rw [alike.terms, same] at others all
    refine ⟨level :: levels, last, by simp only [Expander.climb, extended, climbed],
      .cons alike others, still.trans same, ?_⟩
    rw [List.append_assoc] at all
    exact all

theorem Remembers.extendRecursive (remembers : expander.Remembers keys) (origin : α)
    (within : depth ≤ expander.settings.maxDepth) :
    let levels := ladder expander.settings.precision depth 1 origin
    ∃ answers next, expander.extendRecursive origin depth = (.ok answers, next) ∧
      List.Forall₂ Expansion.Alike answers levels ∧ next.settings = expander.settings ∧
      next.Remembers (keys ++ levels.map Expansion.key) := by
  rw [Expander.extendRecursive, if_neg (Nat.not_lt.mpr within)]
  exact remembers.climb depth origin (by omega)

theorem Remembers.perform (remembers : expander.Remembers keys) (call : Call α) :
    (expander.perform call).2.settings = expander.settings ∧
      (expander.perform call).2.Remembers (recordKeys expander.settings keys call) := by
  cases call with
  | extend origin depth =>
    by_cases within : depth ≤ expander.settings.maxDepth
    · obtain ⟨answer, next, extended, _, same, all⟩ := remembers.extend origin within
      simp only [Expander.perform, extended, recordKeys, if_pos within]
      exact ⟨same, all⟩
    · simp only [Expander.perform, extend_beyond origin (Nat.lt_of_not_le within), recordKeys,
        if_neg within]
      exact ⟨trivial, remembers⟩
  | extendRecursive origin depth =>
    by_cases within : depth ≤ expander.settings.maxDepth
    · obtain ⟨answers, next, extended, _, same, all⟩ := remembers.extendRecursive origin within
      simp only [Expander.perform, extended, recordKeys, if_pos within]
      exact ⟨same, all⟩
    · simp only [Expander.perform, extendRecursive_beyond origin (Nat.lt_of_not_le within), recordKeys,
        if_neg within]
      exact ⟨trivial, remembers⟩
  | clear => exact ⟨rfl, remembers_nil expander.settings⟩

theorem Remembers.after (remembers : expander.Remembers keys) (calls : List (Call α)) :
    (expander.after calls).settings = expander.settings ∧
      (expander.after calls).Remembers (calls.foldl (recordKeys expander.settings) keys) := by
  induction calls generalizing expander keys with
  | nil => exact ⟨rfl, remembers⟩
  | cons call rest ih =>
    obtain ⟨same, next⟩ := remembers.perform call
    obtain ⟨still, all⟩ := ih next
    rw [same] at still all
    exact ⟨still, all⟩

omit [NumericEquality α] in
theorem perform_refused {call : Call α} {e : RangeError}
    (refused : (expander.perform call).1 = .error e) : (expander.perform call).2 = expander := by
  cases call with
  | extend origin depth =>
    by_cases within : depth ≤ expander.settings.maxDepth
    · obtain ⟨answer, next, extended, _⟩ := extend_within origin within
      simp only [Expander.perform, extended, Except.map] at refused
      contradiction
    · simp only [Expander.perform, extend_beyond origin (Nat.lt_of_not_le within)]
  | extendRecursive origin depth =>
    by_cases within : depth ≤ expander.settings.maxDepth
    · obtain ⟨answers, next, extended, _⟩ := extendRecursive_within origin within
      simp only [Expander.perform, extended] at refused
      contradiction
    · simp only [Expander.perform, extendRecursive_beyond origin (Nat.lt_of_not_le within)]
  | clear => contradiction

/-- Expanders with the same settings extend alike, whatever they remember. -/
theorem Remembers.extend_agree {other : Expander α} {otherKeys : List (α × Nat)}
    (remembers : expander.Remembers keys) (also : other.Remembers otherKeys)
    (same : other.settings = expander.settings) (origin : α) (depth : Nat) :
    Agree Expansion.Alike (expander.extend origin depth).1 (other.extend origin depth).1 := by
  by_cases within : depth ≤ expander.settings.maxDepth
  · obtain ⟨answer, next, extended, alike, _⟩ := remembers.extend origin within
    obtain ⟨answer', next', extended', alike', _⟩ := also.extend origin (same ▸ within)
    rw [extended, extended']
    rw [same] at alike'
    exact .ok (alike.trans alike'.symm)
  · have beyond := Nat.lt_of_not_le within
    rw [extend_beyond origin beyond, extend_beyond origin (same ▸ beyond), same]
    exact .error _

theorem Remembers.after_extendAll (remembers : expander.Remembers keys) (origins : List α)
    (depth : Nat) : (Expander.extendAll depth origins expander).2.settings = expander.settings ∧
      ∃ keys, (Expander.extendAll depth origins expander).2.Remembers keys := by
  induction origins generalizing expander keys with
  | nil => exact ⟨rfl, keys, remembers⟩
  | cons origin rest ih =>
    obtain ⟨same, next⟩ := remembers.perform (.extend origin depth)
    simp only [Expander.perform] at same next
    unfold Expander.extendAll
    generalize expander.extend origin depth = extended at same next
    obtain ⟨answer, after⟩ := extended
    cases answer with
    | error e => exact ⟨same, _, next⟩
    | ok first =>
      obtain ⟨still, last⟩ := ih next
      simp only at still last ⊢
      generalize Expander.extendAll depth rest after = others at still last
      obtain ⟨answers, final⟩ := others
      cases answers <;> exact ⟨still.trans same, last⟩

theorem Remembers.extendAll_agree {other : Expander α} {otherKeys : List (α × Nat)}
    (remembers : expander.Remembers keys) (also : other.Remembers otherKeys)
    (same : other.settings = expander.settings) (origins : List α) (depth : Nat) :
    Agree (List.Forall₂ Expansion.Alike) (Expander.extendAll depth origins expander).1
      (Expander.extendAll depth origins other).1 := by
  induction origins generalizing expander other keys otherKeys with
  | nil => exact .ok .nil
  | cons origin rest ih =>
    have first := remembers.extend_agree also same origin depth
    obtain ⟨kept, next⟩ := remembers.perform (.extend origin depth)
    obtain ⟨kept', next'⟩ := also.perform (.extend origin depth)
    simp only [Expander.perform] at kept next kept' next'
    unfold Expander.extendAll
    generalize expander.extend origin depth = x, other.extend origin depth = y at *
    obtain ⟨answer, after⟩ := x
    obtain ⟨answer', after'⟩ := y
    cases first with
    | error e => exact .error e
    | ok alike =>
      have others := ih next next' (by rw [kept', same, kept])
      simp only at others ⊢
      generalize Expander.extendAll depth rest after = xs, Expander.extendAll depth rest after' = ys
        at others
      obtain ⟨answers, last⟩ := xs
      obtain ⟨answers', last'⟩ := ys
      cases others with
      | error e => exact .error e
      | ok alikes => exact .ok (.cons alike alikes)

/-- Memory is invisible. After any calls, an expansion is the one of a new expander up to the sign of a
zero origin, every entry is what is computed for its key, there is one entry for each key extended
since the last clearing, and a refusal changes nothing. -/
theorem memory_invisible [DecidableEq α] (settings : NumericSettings α) (calls : List (Call α)) :
    let expander := (Expander.new settings).after calls
    (∀ origin depth, Agree Expansion.Alike (expander.extend origin depth).1
      ((Expander.new settings).extend origin depth).1) ∧
    (∀ kept ∈ expander.memory, kept.depth ≤ settings.maxDepth ∧
      kept = .compute settings.precision kept.origin kept.depth) ∧
    (∀ origin depth kept, expander.remembered? origin depth = some kept →
      depth ≤ settings.maxDepth ∧ kept.Alike (.compute settings.precision origin depth)) ∧
    expander.size = (extendedKeys settings calls).dedup.length ∧
    ∀ call e, (expander.perform call).1 = .error e → (expander.perform call).2 = expander := by
  have fresh : (Expander.new settings).Remembers [] := remembers_nil settings
  obtain ⟨same, remembers⟩ := fresh.after calls
  intro expander
  have same : expander.settings = settings := same
  refine ⟨?_, ?_, ?_, ?_, ?_⟩
  · intro origin depth
    exact remembers.extend_agree fresh same.symm origin depth
  · intro kept member
    rw [← same]
    exact ⟨remembers.within kept member, remembers.computed kept member⟩
  · intro origin depth kept found
    rw [← same]
    exact remembers.alike found
  · rw [size, ← List.length_map Expansion.key]
    refine List.Perm.length_eq ?_
    refine (List.perm_ext_iff_of_nodup remembers.distinct (List.nodup_dedup _)).mpr ?_
    intro k
    rw [remembers.recorded, List.mem_dedup]
    rfl
  · intro call e
    exact perform_refused

/-- Both zeros at depth two, a ladder that starts with the key of one of them, and a refused call. -/
def zeroCalls : List (Call Float) :=
  [.extend 1.5 2, .clear, .extend 0 2, .extend (-0) 2, .extendRecursive (-0) 2, .extend 1.5 65]

theorem memory_invisible_zeros :
    let settings := Settings.standard.numeric
    let expander := (Expander.new settings).after zeroCalls
    expander.size = 3 ∧ Agree Expansion.Alike (expander.extend (-0) 2).1
      ((Expander.new settings).extend (-0) 2).1 := by
  obtain ⟨agree, _, _, size, _⟩ := memory_invisible Settings.standard.numeric zeroCalls
  refine ⟨size.trans ?_, agree _ _⟩
  decide +kernel

end Expander
end FormulaLab
