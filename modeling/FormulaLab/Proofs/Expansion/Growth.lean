import FormulaLab.Proofs.Expansion.Cancellation

/-! How large expansions and the memory of an expander get. The greatest depth bounds the terms of an
expansion, and what is asked bounds what is remembered afterwards. -/

namespace FormulaLab

variable {α : Type}

namespace Expander

/-- No expansion that is remembered is longer than one of the greatest depth. -/
def Short (expander : Expander α) : Prop :=
  ∀ kept ∈ expander.memory, kept.terms.length ≤ 2 * expander.settings.maxDepth + 1

/-- An answer of an expander, which remembers at most `count` further expansions afterwards. -/
structure Adds {ε : Type} (before : Expander α) (count : Nat)
    (result : Except ε (List (Expansion α)) × Expander α) : Prop where
  settings : result.2.settings = before.settings
  memory : result.2.memory.length ≤ before.memory.length + count
  short : result.2.Short
  produced : ∀ xs, result.1 = .ok xs → ∀ x ∈ xs, x.terms.length ≤ 2 * before.settings.maxDepth + 1

variable {ε : Type} {expander middle last : Expander α} {x : Expansion α} {xs : List (Expansion α)}
  {answer : Except ε (List (Expansion α))} {m n : Nat}

theorem Adds.mono (adds : expander.Adds m (answer, last)) (le : m ≤ n) :
    expander.Adds n (answer, last) :=
  ⟨adds.settings, Nat.le_trans adds.memory (Nat.add_le_add_left le _), adds.short, adds.produced⟩

theorem Adds.none (short : expander.Short) (produced : ∀ xs, answer = .ok xs → xs = []) :
    expander.Adds 0 (answer, expander) where
  settings := rfl
  memory := Nat.le_refl _
  short := short
  produced := by
    intro xs given x member
    rw [produced xs given] at member
    exact absurd member List.not_mem_nil

/-- Nothing is produced beyond what an earlier answer was made of. -/
theorem Adds.only {ε' : Type} {given : Except ε' (List (Expansion α))}
    (adds : expander.Adds n (given, last)) (same : ∀ xs, answer = .ok xs → given = .ok xs) :
    expander.Adds n (answer, last) :=
  ⟨adds.settings, adds.memory, adds.short, fun xs done => adds.produced xs (same xs done)⟩

theorem Adds.failed {ε' : Type} {given : Except ε' (List (Expansion α))}
    (adds : expander.Adds n (given, last)) (e : ε) : expander.Adds n (.error e, last) :=
  adds.only fun _ done => nomatch done

theorem Adds.succeeded {ε' : Type} (adds : expander.Adds (ε := ε') n (.ok xs, last)) :
    expander.Adds (ε := ε) n (.ok xs, last) :=
  adds.only fun _ done => congrArg _ (Except.ok.inj done)

theorem Adds.refused (short : expander.Short) (e : ε) : expander.Adds 0 (.error e, expander) :=
  .none short fun _ given => nomatch given

theorem Adds.memory_trans (first : expander.Adds (ε := ε) m (.ok [x], middle))
    (rest : middle.Adds n (answer, last)) :
    last.memory.length ≤ expander.memory.length + (n + m) := by
  have early := first.memory
  have late := rest.memory
  dsimp only at early late
  omega

theorem Adds.cons (first : expander.Adds (ε := ε) 1 (.ok [x], middle))
    (rest : middle.Adds (ε := ε) n (.ok xs, last)) :
    expander.Adds (ε := ε) (n + 1) (.ok (x :: xs), last) where
  settings := rest.settings.trans first.settings
  memory := first.memory_trans rest
  short := rest.short
  produced := by
    intro ys given
    obtain rfl : x :: xs = ys := Except.ok.inj given
    have same : middle.settings = expander.settings := first.settings
    have others := rest.produced xs rfl
    rw [same] at others
    exact List.forall_mem_cons.mpr ⟨first.produced [x] rfl x (List.mem_singleton_self x), others⟩

theorem Adds.broken {e : ε} (first : expander.Adds (ε := ε) 1 (.ok [x], middle))
    (rest : middle.Adds n (.error e, last)) : expander.Adds (n + 1) (.error e, last) where
  settings := rest.settings.trans first.settings
  memory := first.memory_trans rest
  short := rest.short
  produced := nofun

end Expander

variable [Scalar α]

theorem Expansion.termsOf_length_le (precision origin : α) (depth : Nat) :
    (termsOf precision origin depth).length ≤ 2 * depth + 1 := by
  cases depth with
  | zero =>
    rw [termsOf]
    split <;> simp [zeroTerms, scaledTerms]
  | succ depth =>
    rw [termsOf_length precision origin depth.succ_pos]
    split <;> omega

theorem Expansion.compute_short (precision : α) {depth bound : Nat} (within : depth ≤ bound)
    (origin : α) : (compute precision origin depth).terms.length ≤ 2 * bound + 1 := by
  have size := termsOf_length_le precision origin depth
  dsimp only [compute]
  omega

namespace Expander

variable {expander : Expander α}

/-- An expansion is remembered already, or it is computed within the greatest depth. -/
theorem Short.extend (short : expander.Short) (origin : α) (depth : Nat) :
    expander.Adds 1 (expander.perform (.extend origin depth)) := by
  rw [perform, Expander.extend]
  split
  · exact (Adds.refused short _).mono (Nat.zero_le 1)
  next within =>
    cases known : expander.remembered? origin depth with
    | some kept =>
      refine ⟨rfl, Nat.le_add_right _ _, short, fun xs given => ?_⟩
      obtain rfl : [kept] = xs := Except.ok.inj given
      exact List.forall_mem_singleton.mpr (short kept (List.mem_of_find?_eq_some known))
    | none =>
      have fits := Expansion.compute_short expander.settings.precision
        (Nat.le_of_not_lt within) origin
      refine ⟨rfl, ?_, ?_, fun xs given => ?_⟩
      · simp only [List.length_append, List.length_singleton, Nat.le_refl]
      · intro kept member
        rcases List.mem_append.mp member with earlier | new
        · exact short kept earlier
        · rw [List.mem_singleton.mp new]
          exact fits
      · obtain rfl : [_] = xs := Except.ok.inj given
        exact List.forall_mem_singleton.mpr fits

/-- The induction follows the levels: each is one extension of what the levels below it have left. -/
theorem Short.climb (short : expander.Short) (count depth : Nat) (origin : α) :
    expander.Adds count (climb count depth origin expander) := by
  induction count generalizing depth origin expander with
  | zero => exact ⟨rfl, Nat.le_refl _, short, by simp [Expander.climb]⟩
  | succ count ih =>
    have first := short.extend origin depth
    rw [perform] at first
    rw [Expander.climb]
    generalize expander.extend origin depth = extended at first ⊢
    obtain ⟨answer, middle⟩ := extended
    cases answer with
    | error e => exact first.mono (Nat.le_add_left 1 count)
    | ok level =>
      have rest := ih first.short (depth + 1) (level.terms.headD 0)
      dsimp only at rest ⊢
      generalize Expander.climb count (depth + 1) _ middle = climbed at rest ⊢
      obtain ⟨answer, last⟩ := climbed
      cases answer with
      | error e => exact first.broken rest
      | ok levels => exact first.cons rest

theorem Short.extendAll (short : expander.Short) (depth : Nat) (origins : List α) :
    expander.Adds origins.length (extendAll depth origins expander) := by
  induction origins generalizing expander with
  | nil => exact ⟨rfl, Nat.le_refl _, short, by simp [Expander.extendAll]⟩
  | cons origin rest ih =>
    have first := short.extend origin depth
    rw [perform] at first
    rw [Expander.extendAll]
    generalize expander.extend origin depth = extended at first ⊢
    obtain ⟨answer, middle⟩ := extended
    cases answer with
    | error e => exact first.mono (Nat.le_add_left 1 rest.length)
    | ok x =>
      have others := ih first.short
      dsimp only at others ⊢
      generalize Expander.extendAll depth rest middle = all at others ⊢
      obtain ⟨answer, last⟩ := all
      cases answer with
      | error e => exact first.broken others
      | ok xs => exact first.cons others

theorem Short.extendRecursive (short : expander.Short) (origin : α) (depth : Nat) :
    expander.Adds expander.settings.maxDepth (expander.extendRecursive origin depth) := by
  rw [Expander.extendRecursive]
  split
  · exact (Adds.refused short _).mono (Nat.zero_le _)
  next within => exact (short.climb depth 1 origin).mono (Nat.le_of_not_lt within)

omit [Scalar α] in
theorem Short.clear (expander : Expander α) : expander.clear.Short := by
  intro kept member
  exact absurd member List.not_mem_nil

/-- Expansions that were computed within the greatest depth are short. -/
theorem Remembers.short {keys : List (α × Nat)} (remembers : expander.Remembers keys) :
    expander.Short := by
  intro kept member
  rw [remembers.computed kept member]
  exact Expansion.compute_short _ (remembers.within kept member) _

end Expander
end FormulaLab
