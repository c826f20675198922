import FormulaLab.Contraction
import Mathlib.Data.List.FinRange
import Mathlib.Data.Multiset.AddSub
import Mathlib.Data.Multiset.MapFold

/-! Matchings: disjoint pairs of related members. How many pairs can be taken out of a list depends
neither on its order nor on whether its members or their positions are paired, so the count is studied
on multisets. -/

namespace FormulaLab

variable {α β : Type}

def ends (pairs : List (α × α)) : List α := pairs.flatMap fun p => [p.1, p.2]

@[simp]
theorem ends_nil : ends ([] : List (α × α)) = [] := rfl

@[simp]
theorem ends_cons (p : α × α) (pairs : List (α × α)) :
    ends (p :: pairs) = p.1 :: p.2 :: ends pairs := rfl

theorem length_ends (pairs : List (α × α)) : (ends pairs).length = 2 * pairs.length := by
  induction pairs with
  | nil => rfl
  | cons p pairs ih =>
    simp only [ends_cons, List.length_cons, ih]
    omega

/-- Pairs of related members, no two of which share a member. -/
structure Matching (related : α → α → Prop) (pairs : List (α × α)) : Prop where
  disjoint : (ends pairs).Nodup
  related : ∀ p ∈ pairs, related p.1 p.2

/-- A number of related pairs can be taken out, one after the other. -/
inductive Pairable (related : α → α → Prop) : Nat → Multiset α → Prop where
  | none (s : Multiset α) : Pairable related 0 s
  | pair {k : Nat} {a b : α} {s : Multiset α} : related a b → Pairable related k s →
      Pairable related (k + 1) (a ::ₘ b ::ₘ s)

namespace Pairable

variable {related : α → α → Prop} {k : Nat} {x : α} {s : Multiset α}

theorem cons (x : α) (pairable : Pairable related k s) : Pairable related k (x ::ₘ s) := by
  induction pairable with
  | none => exact .none _
  | @pair k a b s holds _ ih =>
    rw [Multiset.cons_swap x, Multiset.cons_swap x]
    exact .pair holds ih

theorem pred (pairable : Pairable related (k + 1) s) : Pairable related k s := by
  cases pairable with
  | pair _ rest => exact (rest.cons _).cons _

theorem mono {j : Nat} (fewer : j ≤ k) (pairable : Pairable related k s) : Pairable related j s := by
  induction fewer with
  | refl => exact pairable
  | step _ ih => exact ih pairable.pred

theorem two_mul_le_card (pairable : Pairable related k s) : 2 * k ≤ s.card := by
  induction pairable with
  | none => simp
  | pair _ _ ih =>
    rw [Multiset.card_cons, Multiset.card_cons]
    omega

/-- A member is left out, or it is paired with another one. -/
theorem cons_cases (symmetric : ∀ a b, related a b → related b a)
    (pairable : Pairable related k (x ::ₘ s)) :
    Pairable related k s ∨
      ∃ y t j, s = y ::ₘ t ∧ related x y ∧ k = j + 1 ∧ Pairable related j t := by
  generalize whole : x ::ₘ s = all at pairable
  induction pairable generalizing s with
  | none => exact .inl (.none s)
  | @pair k a b t holds rest ih =>
    obtain ⟨rfl, rfl⟩ | ⟨_, u, rfl, inside⟩ := Multiset.cons_eq_cons.mp whole
    · exact .inr ⟨b, t, k, rfl, holds, rfl, rest⟩
    obtain ⟨rfl, rfl⟩ | ⟨_, v, rfl, rfl⟩ := Multiset.cons_eq_cons.mp inside
    · exact .inr ⟨a, t, k, rfl, symmetric _ _ holds, rfl, rest⟩
    -- The member is in neither end of this pair, so the rest decides.
    obtain left | ⟨y, w, j, rfl, apart, rfl, fewer⟩ := ih rfl
    · exact .inl (.pair holds left)
    · refine .inr ⟨y, a ::ₘ b ::ₘ w, j + 1, ?_, apart, rfl, .pair holds fewer⟩
      rw [Multiset.cons_swap b, Multiset.cons_swap a]

/-- Two members may be paired with each other at the cost of one pair, if their partners are related. -/
theorem exchange {a b : α} (symmetric : ∀ x y, related x y → related y x)
    (partners : ∀ x ∈ s, ∀ y ∈ s, related a x → related b y → related x y)
    (pairable : Pairable related k (a ::ₘ b ::ₘ s)) : Pairable related (k - 1) s := by
  obtain free | ⟨x, t, j, others, first, rfl, fewer⟩ := pairable.cons_cases symmetric
  · obtain free | ⟨y, t, j, rfl, _, rfl, fewer⟩ := free.cons_cases symmetric
    · exact free.mono (Nat.sub_le k 1)
    · exact fewer.cons y
  obtain ⟨rfl, rfl⟩ | ⟨_, u, rfl, rfl⟩ := Multiset.cons_eq_cons.mp others
  · exact fewer
  obtain free | ⟨y, t, i, rfl, second, rfl, left⟩ := fewer.cons_cases symmetric
  · exact free.cons x
  · exact .pair (partners x (by simp) y (by simp) first second) left

/-- Members are paired in a list of values exactly if their positions can be. -/
theorem of_map {f : β → α} {positions : Multiset β} (pairable : Pairable related k (positions.map f)) :
    Pairable (fun i j => related (f i) (f j)) k positions := by
  classical
  generalize whole : positions.map f = values at pairable
  induction pairable generalizing positions with
  | none => exact .none _
  | @pair k a b s holds _ ih =>
    obtain ⟨i, first, rfl, others⟩ := (Multiset.map_eq_cons f _ _ _).mpr whole
    obtain ⟨j, second, rfl, left⟩ := (Multiset.map_eq_cons f _ _ _).mpr others
    rw [← Multiset.cons_erase first, ← Multiset.cons_erase second]
    exact .pair holds (ih left)

theorem map {f : β → α} {positions : Multiset β}
    (pairable : Pairable (fun i j => related (f i) (f j)) k positions) :
    Pairable related k (positions.map f) := by
  induction pairable with
  | none => exact .none _
  | pair holds _ ih =>
    rw [Multiset.map_cons, Multiset.map_cons]
    exact .pair holds ih

theorem of_pairs {pairs : List (α × α)} (holds : ∀ p ∈ pairs, related p.1 p.2)
    (rest : Multiset α) : Pairable related pairs.length (↑(ends pairs) + rest) := by
  induction pairs with
  | nil => exact .none _
  | cons p pairs ih =>
    rw [List.forall_mem_cons] at holds
    rw [ends_cons, ← Multiset.cons_coe, ← Multiset.cons_coe, Multiset.cons_add, Multiset.cons_add]
    exact .pair holds.1 (ih holds.2)

theorem exists_pairs (pairable : Pairable related k s) :
    ∃ (pairs : List (α × α)) (rest : Multiset α), s = ↑(ends pairs) + rest ∧
      (∀ p ∈ pairs, related p.1 p.2) ∧ pairs.length = k := by
  induction pairable with
  | none s => exact ⟨[], s, by simp, by simp, rfl⟩
  | @pair k a b s holds _ ih =>
    obtain ⟨pairs, rest, rfl, all, rfl⟩ := ih
    refine ⟨(a, b) :: pairs, rest, ?_, List.forall_mem_cons.mpr ⟨holds, all⟩, rfl⟩
    rw [ends_cons, ← Multiset.cons_coe, ← Multiset.cons_coe, Multiset.cons_add, Multiset.cons_add]

end Pairable

/-- The matchings among the positions of a list are the pairs that can be taken out of its values. -/
theorem exists_matching_iff {related : α → α → Prop} {k : Nat} (values : List α) :
    (∃ pairs : List (Fin values.length × Fin values.length),
      Matching (fun i j => related (values.get i) (values.get j)) pairs ∧ pairs.length = k) ↔
      Pairable related k values := by
  have positions : (values : Multiset α) =
      Multiset.map values.get (List.finRange values.length) := by
    rw [Multiset.map_coe, List.map_get_finRange]
  rw [positions]
  constructor
  · rintro ⟨pairs, matching, size⟩
    have among : (ends pairs : Multiset (Fin values.length)) ≤ List.finRange values.length :=
      List.subperm_of_subset matching.disjoint fun i _ => List.mem_finRange i
    obtain ⟨rest, all⟩ := Multiset.le_iff_exists_add.mp among
    rw [all, ← size]
    exact (Pairable.of_pairs matching.related rest).map
  · intro pairable
    obtain ⟨pairs, rest, all, holds, size⟩ := pairable.of_map.exists_pairs
    have among : (ends pairs : Multiset (Fin values.length)) ≤ List.finRange values.length :=
      all ▸ Multiset.le_add_right _ rest
    have nodup := Multiset.nodup_of_le among (Multiset.coe_nodup.mpr (List.nodup_finRange _))
    exact ⟨pairs, ⟨Multiset.coe_nodup.mp nodup, holds⟩, size⟩

end FormulaLab
