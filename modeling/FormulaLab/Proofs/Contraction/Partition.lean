import Mathlib
import FormulaLab.Proofs.Contraction.Sweep
import FormulaLab.Proofs.Scalar.Exact

/-! Cancellation loses and invents nothing, whatever the values are. The sweep is also told as a walk
of two indices towards each other, which meet or pass each other within the ordered values. -/

namespace FormulaLab.Contraction

variable {α : Type} [Scalar α] {precision : α} {sorted : List α}

theorem cancelDuals_eq {values : List α} (nonempty : values ≠ []) (precision : α) :
    cancelDuals precision values =
      let survivors := (sweep precision (ordered values)).survivors
      ⟨values, Scalar.sum survivors, Scalar.ofNat survivors.length / Scalar.ofNat values.length⟩ :=
  if_neg nonempty

theorem coe_ordered (values : List α) : (ordered values : Multiset α) = values :=
  Multiset.coe_eq_coe.mpr (List.mergeSort_perm values Scalar.totalLe)

/-- The sweep of a window with its ends written out. -/
theorem sweep_window (precision low high : α) (middle : List α) :
    sweep precision (low :: (middle ++ [high])) =
      if Cancels precision low high then
        let swept := sweep precision middle
        { swept with pairs := (low, high) :: swept.pairs }
      else if Scalar.abs high < Scalar.abs low then
        let swept := sweep precision (middle ++ [high])
        { swept with survivors := low :: swept.survivors }
      else
        let swept := sweep precision (low :: middle)
        { swept with survivors := high :: swept.survivors } := by
  obtain ⟨next, rest, split⟩ := List.exists_cons_of_ne_nil (List.append_ne_nil_of_right_ne_nil middle
    (List.cons_ne_nil high []))
  have last : (next :: rest).getLast (List.cons_ne_nil next rest) = high := by simp [← split]
  have init : (next :: rest).dropLast = middle := by simp [← split]
  rw [split, sweep]
  simp only [last, init]
  rfl

/-- Two indices on their way through ordered values, with the survivors and the cancelled pairs so far.
The indices are integers, so that the upper one could fall below zero. -/
structure Walk (α : Type) where
  low : Int
  high : Int
  survivors : List α
  pairs : List (α × α)

namespace Walk

/-- The indices have not met, and both of them point at values. -/
structure Sees (walk : Walk α) (sorted : List α) (a b : α) : Prop where
  apart : walk.low < walk.high
  low : ∃ i : Nat, walk.low = i ∧ sorted[i]? = some a
  high : ∃ j : Nat, walk.high = j ∧ sorted[j]? = some b

inductive Step (precision : α) (sorted : List α) : Walk α → Walk α → Prop where
  | cancel {walk : Walk α} {a b : α} : walk.Sees sorted a b → Cancels precision a b →
      Step precision sorted walk
        ⟨walk.low + 1, walk.high - 1, walk.survivors, walk.pairs ++ [(a, b)]⟩
  | keepLow {walk : Walk α} {a b : α} : walk.Sees sorted a b → ¬Cancels precision a b →
      Scalar.abs b < Scalar.abs a →
      Step precision sorted walk ⟨walk.low + 1, walk.high, walk.survivors ++ [a], walk.pairs⟩
  | keepHigh {walk : Walk α} {a b : α} : walk.Sees sorted a b → ¬Cancels precision a b →
      ¬Scalar.abs b < Scalar.abs a →
      Step precision sorted walk ⟨walk.low, walk.high - 1, walk.survivors ++ [b], walk.pairs⟩

/-- What a number of steps lead to from the ends of some values. -/
inductive After (precision : α) (sorted : List α) : Nat → Walk α → Prop where
  | start : sorted ≠ [] → After precision sorted 0 ⟨0, sorted.length - 1, [], []⟩
  | step {n : Nat} {walk next : Walk α} : After precision sorted n walk →
      Step precision sorted walk next → After precision sorted (n + 1) next

/-- The walk with what is still to come of the window between its indices. -/
def completed (walk : Walk α) (rest : Cancellation α) : Cancellation α :=
  ⟨walk.survivors ++ rest.survivors, walk.pairs ++ rest.pairs⟩

/-- What an arrived walk leaves, the value where both indices meet included. -/
def left (walk : Walk α) (sorted : List α) : Cancellation α :=
  walk.completed ⟨if walk.low = walk.high then sorted[walk.low.toNat]?.toList else [], []⟩

/-- The indices are at the ends of a window, and the sweep of it completes the walk. -/
structure Frames (precision : α) (sorted : List α) (n : Nat) (walk : Walk α)
    (before window behind : List α) : Prop where
  whole : sorted = before ++ window ++ behind
  low : walk.low = before.length
  high : walk.high = before.length + window.length - 1
  upper : 0 ≤ walk.high
  steps : n + window.length ≤ sorted.length
  few : n < sorted.length
  completes : walk.completed (sweep precision window) = sweep precision sorted

variable {walk next : Walk α} {before middle window behind : List α} {n : Nat} {a b c d : α}

omit [Scalar α] in
theorem Sees.unique (first : walk.Sees sorted a b) (second : walk.Sees sorted c d) :
    a = c ∧ b = d := by
  obtain ⟨-, ⟨i, low, atLow⟩, j, high, atHigh⟩ := first
  obtain ⟨-, ⟨i', low', atLow'⟩, j', high', atHigh'⟩ := second
  obtain rfl : i = i' := by omega
  obtain rfl : j = j' := by omega
  exact ⟨Option.some.inj (atLow.symm.trans atLow'), Option.some.inj (atHigh.symm.trans atHigh')⟩

namespace Frames

theorem start (nonempty : sorted ≠ []) :
    Frames precision sorted 0 ⟨0, sorted.length - 1, [], []⟩ [] sorted [] where
  whole := (List.append_nil sorted).symm
  low := rfl
  high := by rw [List.length_nil, Int.natCast_zero, Int.zero_add]
  upper := by
    have some := List.length_pos_iff.mpr nonempty
    dsimp only
    omega
  steps := Nat.le_of_eq (Nat.zero_add _)
  few := List.length_pos_iff.mpr nonempty
  completes := rfl

theorem exists_ends (frames : walk.Frames precision sorted n before window behind)
    (apart : walk.low < walk.high) : ∃ a middle b, window = a :: (middle ++ [b]) := by
  rw [frames.low, frames.high] at apart
  match window with
  | [] | [_] =>
    simp only [List.length_nil, List.length_singleton] at apart
    omega
  | a :: next :: rest =>
    exact ⟨a, _, _, congrArg (a :: ·) (List.dropLast_concat_getLast (List.cons_ne_nil next rest)).symm⟩

section Window

variable (frames : walk.Frames precision sorted n before (a :: (middle ++ [b])) behind)
include frames

/-- Indices that have not met see the ends of the window. -/
theorem sees : walk.Sees sorted a b := by
  have high := frames.high
  simp only [List.length_cons, List.length_append, List.length_nil] at high
  have split : sorted = (before ++ a :: middle) ++ b :: behind := by simp [frames.whole]
  refine ⟨?_, ⟨before.length, frames.low, ?_⟩, (before ++ a :: middle).length, ?_, ?_⟩
  · rw [frames.low]
    omega
  · simp [split]
  · simp only [List.length_append, List.length_cons]
    omega
  · rw [split, List.getElem?_append_right (Nat.le_refl _), Nat.sub_self, List.getElem?_cons_zero]

theorem cancel (cancels : Cancels precision a b) : Frames precision sorted (n + 1)
    ⟨walk.low + 1, walk.high - 1, walk.survivors, walk.pairs ++ [(a, b)]⟩
    (before ++ [a]) middle (b :: behind) := by
  obtain ⟨whole, low, high, upper, steps, few, completes⟩ := frames
  rw [sweep_window, if_pos cancels] at completes
  simp only [List.length_cons, List.length_append, List.length_nil] at high steps
  constructor
  · simp [whole]
  · simp [low]
  · simp only [List.length_append, List.length_singleton]
    omega
  · dsimp only
    omega
  · omega
  · omega
  · simpa [completed] using completes

theorem keepLow (apart : ¬Cancels precision a b) (larger : Scalar.abs b < Scalar.abs a) :
    Frames precision sorted (n + 1) ⟨walk.low + 1, walk.high, walk.survivors ++ [a], walk.pairs⟩
      (before ++ [a]) (middle ++ [b]) behind := by
  obtain ⟨whole, low, high, upper, steps, few, completes⟩ := frames
  rw [sweep_window, if_neg apart, if_pos larger] at completes
  simp only [List.length_cons, List.length_append, List.length_nil] at high steps
  constructor
  · simp [whole]
  · simp [low]
  · simp only [List.length_append, List.length_singleton]
    omega
  · exact upper
  · simp only [List.length_append, List.length_singleton]
    omega
  · omega
  · simpa [completed] using completes

theorem keepHigh (apart : ¬Cancels precision a b) (notLarger : ¬Scalar.abs b < Scalar.abs a) :
    Frames precision sorted (n + 1) ⟨walk.low, walk.high - 1, walk.survivors ++ [b], walk.pairs⟩
      before (a :: middle) (b :: behind) := by
  obtain ⟨whole, low, high, upper, steps, few, completes⟩ := frames
  rw [sweep_window, if_neg apart, if_neg notLarger] at completes
  simp only [List.length_cons, List.length_append, List.length_nil] at high steps
  constructor
  · simp [whole]
  · exact low
  · simp only [List.length_cons]
    omega
  · dsimp only
    omega
  · simp only [List.length_cons]
    omega
  · omega
  · simpa [completed] using completes

end Window

/-- A step moves one or both indices over the ends of the window. -/
theorem step (frames : walk.Frames precision sorted n before window behind)
    (step : Step precision sorted walk next) :
    ∃ before window behind, next.Frames precision sorted (n + 1) before window behind := by
  cases step with
  | cancel sees cancels =>
    obtain ⟨_, _, _, rfl⟩ := frames.exists_ends sees.apart
    obtain ⟨rfl, rfl⟩ := sees.unique frames.sees
    exact ⟨_, _, _, frames.cancel cancels⟩
  | keepLow sees apart larger =>
    obtain ⟨_, _, _, rfl⟩ := frames.exists_ends sees.apart
    obtain ⟨rfl, rfl⟩ := sees.unique frames.sees
    exact ⟨_, _, _, frames.keepLow apart larger⟩
  | keepHigh sees apart notLarger =>
    obtain ⟨_, _, _, rfl⟩ := frames.exists_ends sees.apart
    obtain ⟨rfl, rfl⟩ := sees.unique frames.sees
    exact ⟨_, _, _, frames.keepHigh apart notLarger⟩

theorem exists_step (frames : walk.Frames precision sorted n before window behind)
    (apart : walk.low < walk.high) : ∃ next, Step precision sorted walk next := by
  obtain ⟨a, _, b, rfl⟩ := frames.exists_ends apart
  by_cases cancels : Cancels precision a b
  · exact ⟨_, .cancel frames.sees cancels⟩
  by_cases larger : Scalar.abs b < Scalar.abs a
  · exact ⟨_, .keepLow frames.sees cancels larger⟩
  · exact ⟨_, .keepHigh frames.sees cancels larger⟩

/-- Where the indices have met, the window has one value, and where they have passed each other none. -/
theorem left_eq (frames : walk.Frames precision sorted n before window behind)
    (arrived : walk.high ≤ walk.low) : walk.left sorted = sweep precision sorted := by
  rw [← frames.completes, left]
  rw [frames.low, frames.high] at arrived ⊢
  match window with
  | [] =>
    have passed : (before.length : Int) ≠ before.length + ([] : List α).length - 1 := by
      rw [List.length_nil]
      omega
    rw [if_neg passed, sweep]
  | [v] =>
    rw [if_pos (by simp), frames.whole, sweep]
    simp
  | _ :: _ :: _ =>
    simp only [List.length_cons] at arrived
    omega

end Frames

theorem After.frames (walked : After precision sorted n walk) :
    ∃ before window behind, walk.Frames precision sorted n before window behind := by
  induction walked with
  | start nonempty => exact ⟨_, _, _, .start nonempty⟩
  | step _ step ih =>
    obtain ⟨_, _, _, frames⟩ := ih
    exact frames.step step

/-- A walk under way. It has not left the values, goes on as long as the indices have not met, and then
leaves what the sweep leaves. -/
structure Sound (precision : α) (sorted : List α) (n : Nat) (walk : Walk α) : Prop where
  few : n < sorted.length
  lower : 0 ≤ walk.low
  upper : 0 ≤ walk.high
  within : walk.high < sorted.length
  onward : walk.low < walk.high → ∃ next, Step precision sorted walk next
  arrived : walk.high ≤ walk.low → walk.left sorted = sweep precision sorted

theorem After.sound (walked : After precision sorted n walk) : walk.Sound precision sorted n := by
  obtain ⟨before, window, behind, frames⟩ := walked.frames
  have low := frames.low
  have high := frames.high
  have whole := congrArg List.length frames.whole
  simp only [List.length_append] at whole
  exact ⟨frames.few, by omega, frames.upper, by omega, frames.exists_step, frames.left_eq⟩

/-- The steps of a walk are fewer than the values, so it arrives. -/
theorem exists_arrived (nonempty : sorted ≠ []) :
    ∃ n walk, After precision sorted n walk ∧ walk.high ≤ walk.low := by
  by_contra never
  have endless (n : Nat) : ∃ walk, After precision sorted n walk := by
    induction n with
    | zero => exact ⟨_, .start nonempty⟩
    | succ n ih =>
      obtain ⟨walk, walked⟩ := ih
      have apart : walk.low < walk.high :=
        Int.not_le.mp fun arrived => never ⟨n, walk, walked, arrived⟩
      obtain ⟨next, step⟩ := walked.sound.onward apart
      exact ⟨next, walked.step step⟩
  obtain ⟨walk, walked⟩ := endless sorted.length
  exact Nat.lt_irrefl _ walked.sound.few

end Walk

/-- The values are the survivors and pairs that cancel. -/
structure Partitions (precision : α) (values : List α) (swept : Cancellation α) : Prop where
  whole : (ends swept.pairs ++ swept.survivors).Perm values
  cancels : ∀ p ∈ swept.pairs, Cancels precision p.1 p.2
  parity : swept.survivors.length % 2 = values.length % 2

theorem sweep_partitions (precision : α) (values : List α) :
    Partitions precision values (sweep precision (ordered values)) := by
  have run := sweep_swept precision (ordered values)
  have partition := run.partition
  rw [coe_ordered, Multiset.coe_add, Multiset.coe_eq_coe] at partition
  refine ⟨partition.symm, run.cancels, ?_⟩
  have size := partition.length_eq
  rw [List.length_append, length_ends] at size
  omega

/-! Without rounding. -/

theorem abs_sum_ends_le {precision : ℝ} {pairs : List (ℝ × ℝ)}
    (cancels : ∀ p ∈ pairs, Cancels precision p.1 p.2) :
    |(ends pairs).sum| ≤ precision * pairs.length := by
  induction pairs with
  | nil => simp
  | cons p pairs ih =>
    obtain ⟨first, rest⟩ := List.forall_mem_cons.mp cancels
    have small : |p.1 + p.2| ≤ precision := le_of_lt first
    rw [ends_cons, List.sum_cons, List.sum_cons, ← add_assoc, List.length_cons, Nat.cast_succ,
      mul_add_one, add_comm]
    exact (abs_add_le _ _).trans (add_le_add (ih rest) small)

theorem Partitions.sum_near {precision : ℝ} {values : List ℝ} {swept : Cancellation ℝ}
    (partitions : Partitions precision values swept) :
    |values.sum - swept.survivors.sum| ≤ precision * swept.pairs.length := by
  rw [← partitions.whole.sum_eq, List.sum_append, add_sub_cancel_right]
  exact abs_sum_ends_le partitions.cancels

theorem contracted_real (precision : ℝ) (values : List ℝ) :
    (cancelDuals precision values).contracted =
      (sweep precision (ordered values)).survivors.sum := by
  by_cases empty : values = []
  · rw [cancelDuals, if_pos empty, empty, ordered, List.mergeSort_nil, sweep]
    exact Nat.cast_zero
  · rw [cancelDuals_eq empty]
    exact Scalar.sum_real _

/-- Cancellation partitions any values at any precision: the two indices of the sweep stay within the
values and arrive, and what they leave out are pairs that cancel. Without rounding, what is contracted
is off the sum of the values by at most the precision for each of them. -/
theorem cancellation_partitions :
    (∀ {α : Type} [Scalar α] (precision : α) (values : List α),
      let swept := sweep precision (ordered values)
      Partitions precision values swept ∧
        (∀ n walk, Walk.After precision (ordered values) n walk →
          walk.Sound precision (ordered values) n) ∧
        (values = [] ∨ ∃ n walk, Walk.After precision (ordered values) n walk ∧
          walk.high ≤ walk.low) ∧
        (cancelDuals precision values).contracted =
          (if values = [] then 0 else Scalar.sum swept.survivors) ∧
        (cancelDuals precision values).lossRatio =
          if values = [] then 0
          else Scalar.ofNat swept.survivors.length / Scalar.ofNat values.length) ∧
    ∀ (precision : ℝ) (values : List ℝ),
      |values.sum - (cancelDuals precision values).contracted| ≤
        precision * (sweep precision (ordered values)).pairs.length := by
  constructor
  · intro α _ precision values swept
    refine ⟨sweep_partitions precision values, fun n walk walked => walked.sound, ?_, ?_⟩
    · refine or_iff_not_imp_left.mpr fun nonempty => Walk.exists_arrived fun empty => nonempty ?_
      rw [← Multiset.coe_eq_zero, ← coe_ordered, empty]
      rfl
    · by_cases empty : values = []
      · simp only [cancelDuals, if_pos empty, and_self]
      · rw [cancelDuals_eq empty, if_neg empty, if_neg empty]
        exact ⟨rfl, rfl⟩
  · intro precision values
    rw [contracted_real]
    exact (sweep_partitions precision values).sum_near

/-- Values that are not numbers or infinite take part too. -/
theorem cancellation_partitions_infinite :
    let values : List Float := [0 / 0, 1, 1 / 0, -1]
    (sweep 0.01 (ordered values)).survivors.length % 2 = 0 ∧
      (∃ n walk, Walk.After 0.01 (ordered values) n walk ∧ walk.high ≤ walk.low ∧ 0 ≤ walk.high ∧
        walk.left (ordered values) = sweep 0.01 (ordered values)) ∧
      (cancelDuals 0.01 values).lossRatio =
        Scalar.ofNat (sweep 0.01 (ordered values)).survivors.length / 4 := by
  intro values
  obtain ⟨⟨_, _, parity⟩, sound, arrives, _, ratio⟩ := cancellation_partitions.1 0.01 values
  obtain ⟨n, walk, walked, arrived⟩ := arrives.resolve_left (List.cons_ne_nil _ _)
  have within := sound n walk walked
  have four : values.length = 4 := rfl
  rw [four] at parity
  exact ⟨parity, ⟨n, walk, walked, arrived, within.upper, within.arrived arrived⟩, ratio⟩

end FormulaLab.Contraction
