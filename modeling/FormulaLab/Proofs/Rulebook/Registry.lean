import Mathlib.Data.List.TakeWhile
import FormulaLab.Rulebook.Basic

/-! Rulebooks in the making. However rules come and go, those that stay are in descending priority. -/

namespace FormulaLab.Rulebook

variable {α : Type}

/-- Rulebooks that rules have been added to and taken out of. -/
inductive Registered : Rulebook α → Prop where
  | empty : Registered empty
  | register {book : Rulebook α} (rule : Rule α) : Registered book → Registered (book.register rule)
  | unregister {book rest : Rulebook α} {name : String} {rule : Rule α} :
      Registered book → book.unregister name = .ok (rule, rest) → Registered rest

/-- No rule has a lower priority than a later one. -/
def Descending (book : Rulebook α) : Prop :=
  book.rules.Pairwise fun first second => second.priority ≤ first.priority

variable {book : Rulebook α} {rule : Rule α} {f : Formula α}

theorem ofList_registered (rules : List (Rule α)) : (ofList rules).Registered := by
  suffices ∀ book : Rulebook α, book.Registered → (rules.foldl register book).Registered from
    this _ .empty
  induction rules with
  | nil => exact fun _ made => made
  | cons rule rest ih => exact fun _ made => ih _ (made.register rule)

/-- In descending priorities nothing from the first rule below some priority on reaches it. -/
theorem below_of_descending {rules : List (Rule α)} (priority : Int)
    (descending : rules.Pairwise fun first second => second.priority ≤ first.priority) :
    ∀ other ∈ rules.dropWhile fun other => decide (priority ≤ other.priority),
      other.priority < priority := by
  induction rules with
  | nil => simp
  | cons next rest ih =>
    rw [List.pairwise_cons] at descending
    by_cases reaches : priority ≤ next.priority
    · rw [List.dropWhile_cons_of_pos (by simpa using reaches)]
      exact ih descending.2
    · rw [List.dropWhile_cons_of_neg (by simpa using reaches), List.forall_mem_cons]
      have lower : next.priority < priority := Int.not_le.mp reaches
      exact ⟨lower, fun other member => Int.lt_of_le_of_lt (descending.1 other member) lower⟩

theorem Descending.register (descending : book.Descending) (rule : Rule α) :
    (book.register rule).Descending := by
  have behind := below_of_descending rule.priority descending
  rw [Descending, ← List.takeWhile_append_dropWhile (l := book.rules)
    (p := fun other => decide (rule.priority ≤ other.priority)), List.pairwise_append] at descending
  obtain ⟨first, second, across⟩ := descending
  refine List.pairwise_append.mpr ⟨first, List.pairwise_cons.mpr ⟨fun other member => ?_, second⟩, ?_⟩
  · exact Int.le_of_lt (behind other member)
  · intro other member
    have ahead : rule.priority ≤ other.priority := by simpa using List.mem_takeWhile_imp member
    rw [List.forall_mem_cons]
    exact ⟨ahead, across other member⟩

theorem Descending.unregister {name : String} {rest : Rulebook α} (descending : book.Descending)
    (removed : book.unregister name = .ok (rule, rest)) : rest.Descending := by
  unfold Rulebook.unregister at removed
  split at removed
  · obtain ⟨-, rfl⟩ := Prod.mk.inj (Except.ok.inj removed)
    exact descending.sublist (List.eraseP_sublist)
  · contradiction

theorem Registered.descending (made : book.Registered) : book.Descending := by
  induction made with
  | empty => exact .nil
  | register rule _ ih => exact ih.register rule
  | unregister _ removed ih => exact ih.unregister removed

/-- The first rule that applies has the greatest priority of those that do. -/
theorem Descending.firstMatch?_greatest (descending : book.Descending)
    (matched : book.firstMatch? f = some rule) :
    ∀ other ∈ book.rules, other.pattern f = true → other.priority ≤ rule.priority := by
  obtain ⟨-, before, after, split, earlier⟩ := List.find?_eq_some_iff_append.mp matched
  rw [Descending, split, List.pairwise_append, List.pairwise_cons] at descending
  intro other member applies
  rw [split, List.mem_append, List.mem_cons] at member
  obtain early | rfl | late := member
  · exact absurd applies (by simpa using earlier other early)
  · exact Int.le_refl _
  · exact descending.2.1.1 other late

end FormulaLab.Rulebook
