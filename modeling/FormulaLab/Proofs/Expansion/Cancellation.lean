import FormulaLab.Proofs.Contraction.Optimality
import FormulaLab.Proofs.Contraction.Partition
import FormulaLab.Proofs.Expansion.Transparency

/-! Expansions cancel. The terms of an expansion are pairs of opposite values and one term more, so the
cancelling sweep leaves one survivor. It need not be that term, since values of different levels may
cancel within the precision, but without rounding it is close to it. -/

namespace FormulaLab

open Scalar (Ordered MonotoneAddition NumericEquality isFinite)

variable {α : Type} [Scalar α]

namespace Contraction

variable [Ordered α] [MonotoneAddition α] {precision v : α} {window : List α} {pairs : List (α × α)}
  {swept : Cancellation α}

/-- Where all values but one can be paired off, the sweep leaves one value too. -/
theorem Swept.one_survivor (positive : 0 < precision) (run : Swept precision window swept)
    (rising : Rising window) (cancels : ∀ p ∈ pairs, Cancels precision p.1 p.2)
    (whole : (window : Multiset α) = ↑(ends pairs) + {v}) :
    swept.pairs.length = pairs.length ∧ swept.survivors.length = 1 := by
  have pairable : Pairable (Cancels precision) pairs.length window := by
    rw [whole]
    exact Pairable.of_pairs cancels {v}
  have many := run.maximum positive rising pairable
  have size := congrArg Multiset.card (whole.symm.trans run.partition)
  simp only [Multiset.card_add, Multiset.coe_card, length_ends, Multiset.card_singleton] at size
  omega

/-! Without rounding. -/

theorem sum_ends_opposite {pairs : List (ℝ × ℝ)} (opposite : ∀ p ∈ pairs, p.2 = -p.1) :
    (ends pairs).sum = 0 := by
  induction pairs with
  | nil => rfl
  | cons p pairs ih =>
    obtain ⟨first, rest⟩ := List.forall_mem_cons.mp opposite
    rw [ends_cons, List.sum_cons, List.sum_cons, ih rest, first]
    ring

/-- The value that the sweep leaves is off by less than the precision for each pair that it cancels. -/
theorem Swept.survivor_near {precision v s : ℝ} {window : List ℝ} {pairs : List (ℝ × ℝ)}
    {swept : Cancellation ℝ} (run : Swept precision window swept)
    (opposite : ∀ p ∈ pairs, p.2 = -p.1) (whole : (window : Multiset ℝ) = ↑(ends pairs) + {v})
    (left : swept.survivors = [s]) : |s - v| ≤ precision * swept.pairs.length := by
  have sum := congrArg Multiset.sum (whole.symm.trans run.partition)
  simp only [Multiset.sum_add, Multiset.sum_coe, Multiset.sum_singleton, left, List.sum_singleton,
    sum_ends_opposite opposite, zero_add] at sum
  have off : s - v = -(ends swept.pairs).sum := by
    rw [sum]
    ring
  rw [off, abs_neg]
  exact abs_sum_ends_le run.cancels

end Contraction

namespace Expansion

/-- The term without an opposite. -/
def unmirrored (origin : α) : α := if origin == 0 then 0 else scaledTerm origin 0

/-- The other terms, each beside its opposite. -/
def mirrored (precision origin : α) (depth : Nat) : List (α × α) :=
  if origin == 0 then
    (List.range depth).map fun k =>
      let term := precision * Scalar.powNat Scalar.golden (k + 1)
      (term, -term)
  else
    (List.range (depth - 1)).map fun k => (scaledTerm origin (k + 1), -scaledTerm origin (k + 1))

variable {precision origin : α} {depth : Nat}

theorem mirrored_length (precision origin : α) (depth : Nat) :
    (mirrored precision origin depth).length = if origin == 0 then depth else depth - 1 := by
  unfold mirrored
  split <;> simp

theorem mirrored_opposite : ∀ p ∈ mirrored precision origin depth, p.2 = -p.1 := by
  intro p member
  unfold mirrored at member
  split at member
  · obtain ⟨k, -, rfl⟩ := List.mem_map.mp member
    rfl
  · obtain ⟨k, -, rfl⟩ := List.mem_map.mp member
    rfl

theorem coe_termsOf (precision origin : α) (some : 0 < depth) :
    (termsOf precision origin depth : Multiset α) =
      ↑(ends (mirrored precision origin depth)) + {unmirrored origin} := by
  unfold termsOf mirrored unmirrored
  split
  · rw [zeroTerms, ends, List.flatMap_map, ← Multiset.coe_add, Multiset.coe_singleton]
  · obtain ⟨depth, rfl⟩ := Nat.exists_eq_succ_of_ne_zero (Nat.ne_of_gt some)
    rw [scaledTerms, List.range_succ_eq_map, List.flatMap_cons, List.flatMap_map, ends,
      List.flatMap_map, Nat.succ_sub_one, ← Multiset.coe_add, Multiset.add_comm]
    simp

theorem termsOf_length (precision origin : α) (some : 0 < depth) :
    (termsOf precision origin depth).length =
      if origin == 0 then 2 * depth + 1 else 2 * depth - 1 := by
  have size := congrArg Multiset.card (coe_termsOf precision origin some)
  simp only [Multiset.card_add, Multiset.coe_card, length_ends, Multiset.card_singleton,
    mirrored_length] at size
  rw [size]
  split <;> omega

theorem termsOf_ne_nil (precision origin : α) (some : 0 < depth) :
    termsOf precision origin depth ≠ [] := by
  have size := termsOf_length precision origin some
  rw [← List.length_pos_iff]
  split at size <;> omega

open Contraction (Cancels cancelDuals contracted_real sweep sweep_swept ordered ordered_rising
  coe_ordered)

theorem mirrored_cancels [MonotoneAddition α] (positive : 0 < precision) (some : 0 < depth)
    (finite : ∀ t ∈ termsOf precision origin depth, isFinite t) :
    ∀ p ∈ mirrored precision origin depth, Cancels precision p.1 p.2 := by
  intro p member
  have term : p.1 ∈ termsOf precision origin depth := by
    rw [← Multiset.mem_coe, coe_termsOf precision origin some, Multiset.mem_add, Multiset.mem_coe]
    exact .inl (List.mem_flatMap.mpr ⟨p, member, List.mem_cons_self⟩)
  rw [Cancels, mirrored_opposite p member]
  exact MonotoneAddition.abs_add_neg_lt p.1 precision (finite _ term) positive

theorem sweep_terms [Ordered α] [MonotoneAddition α] (positive : 0 < precision) (some : 0 < depth)
    (finite : ∀ t ∈ termsOf precision origin depth, isFinite t) :
    (sweep precision (ordered (termsOf precision origin depth))).survivors.length = 1 := by
  have run := sweep_swept precision (ordered (termsOf precision origin depth))
  have whole := (coe_ordered _).trans (coe_termsOf precision origin some)
  exact (run.one_survivor positive (ordered_rising finite)
    (mirrored_cancels positive some finite) whole).2

theorem contracted_near {precision origin : ℝ} (positive : 0 < precision) (some : 0 < depth) :
    |(cancelDuals precision (termsOf precision origin depth)).contracted - unmirrored origin| ≤
      precision * (sweep precision (ordered (termsOf precision origin depth))).pairs.length := by
  have above : ((0 : Nat) : ℝ) < precision := by rwa [Nat.cast_zero]
  have one := @sweep_terms ℝ _ precision origin depth _ _ above some fun _ _ => rfl
  obtain ⟨s, left⟩ := List.length_eq_one_iff.mp one
  have run := sweep_swept precision (ordered (termsOf precision origin depth))
  have whole := (coe_ordered _).trans (coe_termsOf precision origin some)
  have contracted : (cancelDuals precision (termsOf precision origin depth)).contracted = s := by
    rw [contracted_real, left, List.sum_singleton]
  rw [contracted]
  exact run.survivor_near mirrored_opposite whole left

theorem unmirrored_eq (origin : ℝ) :
    unmirrored origin = if origin = 0 then 0 else origin / Real.exp 1 := by
  have zero : (Scalar.ofNat 0 : ℝ) = 0 := Nat.cast_zero
  have single : (Scalar.ofNat (0 + 1) : ℝ) = 1 := Nat.cast_one
  have power : Scalar.powNat (Scalar.golden : ℝ) 0 = 1 := single
  have first : scaledTerm origin 0 = origin / Real.exp 1 := by
    rw [scaledTerm, power, mul_one, single]
    rfl
  rw [unmirrored, first]
  change (if decide (origin = Scalar.ofNat 0) = true then Scalar.ofNat 0 else _) = _
  simp only [zero, decide_eq_true_eq]

end Expansion

namespace Expander

open Contraction (cancelDuals sweep ordered)
open Expansion (termsOf)

/-- After any calls an origin is extended to the same terms. -/
theorem extend_terms [NumericEquality α] (settings : NumericSettings α) (calls : List (Call α))
    (origin : α) {depth : Nat} (within : depth ≤ settings.maxDepth) :
    ∃ x next, ((new settings).after calls).extend origin depth = (.ok x, next) ∧
      x.terms = termsOf settings.precision origin depth := by
  have fresh : (new settings).Remembers [] := remembers_nil settings
  obtain ⟨same, remembers⟩ := fresh.after calls
  have same : ((new settings).after calls).settings = settings := same
  obtain ⟨x, next, extended, alike, -⟩ := remembers.extend origin (same ▸ within)
  rw [same] at alike
  exact ⟨x, next, extended, alike.terms⟩

/-- The extension of any origin cancels back to a single term, also where the tolerance makes the term
without an opposite cancel with another one. Without rounding, what is left is as close to that term as
the number of cancelled pairs tells. -/
theorem extension_cancels :
    (∀ {α : Type} [Scalar α] [Ordered α] [MonotoneAddition α] [NumericEquality α]
      (settings : NumericSettings α) (calls : List (Call α)) (origin : α) (depth : Nat),
      0 < settings.precision → 0 < depth → depth ≤ settings.maxDepth →
      ∃ x next, ((new settings).after calls).extend origin depth = (.ok x, next) ∧
        x.terms.length = (if origin == 0 then 2 * depth + 1 else 2 * depth - 1) ∧
        ((∀ t ∈ x.terms, isFinite t) →
          (sweep settings.precision (ordered x.terms)).survivors.length = 1 ∧
          (cancelDuals settings.precision x.terms).lossRatio =
            1 / Scalar.ofNat x.terms.length)) ∧
    ∀ (settings : NumericSettings ℝ) (calls : List (Call ℝ)) (origin : ℝ) (depth : Nat),
      0 < settings.precision → 0 < depth → depth ≤ settings.maxDepth →
      ∃ x next, ((new settings).after calls).extend origin depth = (.ok x, next) ∧
        |(cancelDuals settings.precision x.terms).contracted -
            (if origin = 0 then 0 else origin / Real.exp 1)| ≤
          settings.precision * (sweep settings.precision (ordered x.terms)).pairs.length := by
  constructor
  · intro α _ _ _ _ settings calls origin depth positive some within
    obtain ⟨x, next, extended, terms⟩ := extend_terms settings calls origin within
    have size := Expansion.termsOf_length settings.precision origin some
    refine ⟨x, next, extended, terms ▸ size, ?_⟩
    intro finite
    rw [terms] at finite ⊢
    have one := Expansion.sweep_terms positive some finite
    rw [Contraction.cancelDuals_eq (Expansion.termsOf_ne_nil _ _ some)]
    dsimp only
    rw [one]
    exact ⟨rfl, rfl⟩
  · intro settings calls origin depth positive some within
    obtain ⟨x, next, extended, terms⟩ := extend_terms settings calls origin within
    refine ⟨x, next, extended, ?_⟩
    have near := @Expansion.contracted_near depth settings.precision origin positive some
    rwa [terms, ← Expansion.unmirrored_eq]

/-- Two levels around zero, after calls with either zero. Without rounding, an origin below the
precision, of which any two terms may cancel. -/
theorem extension_cancels_tiny :
    (∃ x next, ((new Settings.standard.numeric).after zeroCalls).extend (-0) 2 = (.ok x, next) ∧
      x.terms.length = 5 ∧
      (sweep Settings.standard.numeric.precision (ordered x.terms)).survivors.length = 1) ∧
    ∃ x next, (new ⟨(1 : ℝ), 64, 1, 1⟩).extend (1 / 10) 2 = (.ok x, next) ∧ x.terms.length = 3 ∧
      (cancelDuals 1 x.terms).lossRatio = 1 / 3 ∧
      |(cancelDuals 1 x.terms).contracted - 1 / 10 / Real.exp 1| ≤
        1 * (sweep 1 (ordered x.terms)).pairs.length := by
  constructor
  · have finite : ∀ x ∈ (((new Settings.standard.numeric).after zeroCalls).extend (-0) 2).1.toOption,
        ∀ t ∈ x.terms, isFinite t := by decide +kernel
    obtain ⟨x, next, extended, size, cancelled⟩ := extension_cancels.1 Settings.standard.numeric
      zeroCalls (-0 : Float) 2 (by decide +kernel) (by decide) (by decide)
    rw [extended] at finite
    exact ⟨x, next, extended, size, (cancelled (finite x rfl)).1⟩
  · have positive : ((0 : Nat) : ℝ) < 1 := by norm_num
    have away : (1 / 10 : ℝ) ≠ ((0 : Nat) : ℝ) := by norm_num
    have nonzero : ((1 / 10 : ℝ) == Scalar.ofNat 0) = false := decide_eq_false away
    obtain ⟨x, next, extended, size, cancelled⟩ := extension_cancels.1
      ⟨(1 : ℝ), 64, 1, 1⟩ [] (1 / 10) 2 positive (by decide) (by decide)
    obtain ⟨y, after, again, near⟩ := extension_cancels.2
      ⟨1, 64, 1, 1⟩ [] (1 / 10) 2 (by norm_num) (by decide) (by decide)
    obtain ⟨⟨⟩, rfl⟩ := Prod.ext_iff.mp (extended.symm.trans again)
    have size : x.terms.length = 3 := size.trans (if_neg (ne_true_of_eq_false nonzero))
    have ratio := (cancelled fun _ _ => rfl).2
    rw [size] at ratio
    have third : ((1 : Nat) : ℝ) / ((3 : Nat) : ℝ) = 1 / 3 := by norm_num
    rw [if_neg (by norm_num)] at near
    exact ⟨x, next, extended, size, ratio.trans third, near⟩

end Expander
end FormulaLab
