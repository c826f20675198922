import Mathlib
import FormulaLab.Dimension.FixedPoint
import FormulaLab.Proofs.Scalar.Distance

/-! Fixed points that are found. Each walk of the search goes through the iterates of one map, so what it
returns is told by the first iterate whose step is small; and the points of the walks are kept in the order
of their seeds unless one found before is near. -/

namespace FormulaLab.FixedPoint

open Scalar (Distances NonnegativeSums Absorbing)

section Walks

variable {α : Type} [Scalar α] {f : List α → List α} {dimension budget k : Nat} {threshold : α}
  {x p : List α}

/-- A step goes half of the way to the image. -/
def step (f : List α → List α) (x : List α) : List α := halfway x (f x)

/-- How far a step goes. -/
def change (f : List α → List α) (x : List α) : α := distance (step f x) x

/-- The image has the dimension that is asked for, and the step is finite. -/
def Regular (f : List α → List α) (dimension : Nat) (x : List α) : Prop :=
  (f x).length = dimension ∧ Scalar.isFinite (change f x) = true

instance (f : List α → List α) (dimension : Nat) (x : List α) : Decidable (Regular f dimension x) :=
  inferInstanceAs (Decidable (_ ∧ _))

/-- A walk from `x` ends in `p` with the first step that is small, after `k` others. -/
structure EndsAfter (f : List α → List α) (dimension : Nat) (threshold : α) (k : Nat)
    (x p : List α) : Prop where
  regular : ∀ j < k, Regular f dimension ((step f)^[j] x)
  far : ∀ j < k, ¬change f ((step f)^[j] x) < threshold
  last : Regular f dimension ((step f)^[k] x)
  close : change f ((step f)^[k] x) < threshold
  point : p = step f ((step f)^[k] x)

theorem endsAfter_zero :
    EndsAfter f dimension threshold 0 x p ↔
      Regular f dimension x ∧ change f x < threshold ∧ p = step f x := by
  constructor
  · intro ends
    exact ⟨ends.last, ends.close, ends.point⟩
  · rintro ⟨last, close, point⟩
    exact ⟨fun _ => nofun, fun _ => nofun, last, close, point⟩

theorem endsAfter_succ :
    EndsAfter f dimension threshold (k + 1) x p ↔
      Regular f dimension x ∧ ¬change f x < threshold ∧
        EndsAfter f dimension threshold k (step f x) p := by
  constructor
  · intro ends
    obtain ⟨regular, laterRegular⟩ := Nat.forall_lt_succ_left.mp ends.regular
    obtain ⟨far, laterFar⟩ := Nat.forall_lt_succ_left.mp ends.far
    exact ⟨regular, far, laterRegular, laterFar, ends.last, ends.close, ends.point⟩
  · rintro ⟨regular, far, ends⟩
    exact ⟨Nat.forall_lt_succ_left.mpr ⟨regular, ends.regular⟩,
      Nat.forall_lt_succ_left.mpr ⟨far, ends.far⟩, ends.last, ends.close, ends.point⟩

theorem settle?_succ :
    settle? f dimension threshold (budget + 1) x =
      if Regular f dimension x then
        if change f x < threshold then some (step f x)
        else settle? f dimension threshold budget (step f x)
      else none := by
  change (if (f x).length ≠ dimension then none
    else if (!Scalar.isFinite (change f x)) = true then none
    else if change f x < threshold then some (step f x)
    else settle? f dimension threshold budget (step f x)) = _
  by_cases size : (f x).length = dimension
  · rw [if_neg (not_not_intro size)]
    by_cases finite : Scalar.isFinite (change f x) = true
    · have regular : Regular f dimension x := ⟨size, finite⟩
      rw [if_neg (by simp [finite]), if_pos regular]
    · have irregular : ¬Regular f dimension x := fun regular => finite regular.2
      rw [if_pos (by simp [finite]), if_neg irregular]
  · have irregular : ¬Regular f dimension x := fun regular => size regular.1
    rw [if_pos size, if_neg irregular]

/-- The search returns the end of a walk that ends within the budget. -/
theorem settle?_eq_some_iff :
    settle? f dimension threshold budget x = some p ↔
      ∃ k < budget, EndsAfter f dimension threshold k x p := by
  induction budget generalizing x with
  | zero => simp [settle?]
  | succ budget ih =>
    rw [settle?_succ, Nat.exists_lt_succ_left]
    simp only [endsAfter_zero, endsAfter_succ]
    by_cases regular : Regular f dimension x
    · by_cases close : change f x < threshold
      · simp [regular, close, eq_comm]
      · simp [regular, close, ih]
    · simp [regular]

/-! Lengths. -/

theorem step_length (size : x.length = dimension) (image : (f x).length = dimension) :
    (step f x).length = dimension := by
  rw [step, halfway, List.length_zipWith, size, image, Nat.min_self]

theorem iterate_length (size : x.length = dimension)
    (regular : ∀ j < k, Regular f dimension ((step f)^[j] x)) :
    ((step f)^[k] x).length = dimension := by
  induction k with
  | zero => exact size
  | succ k ih =>
    rw [Function.iterate_succ_apply']
    exact step_length (ih fun j less => regular j (Nat.lt_succ_of_lt less))
      (regular k (Nat.lt_succ_self k)).1

theorem EndsAfter.length (ends : EndsAfter f dimension threshold k x p)
    (size : x.length = dimension) : p.length = dimension := by
  rw [ends.point]
  exact step_length (iterate_length size ends.regular) ends.last.1

/-! Finite steps. -/

variable [Scalar.Ordered α] [Distances α]

/-- Vectors at a finite distance have finite components. -/
theorem isFinite_of_distance {y : List α} (size : x.length = y.length)
    (finite : Scalar.isFinite (distance x y) = true) : ∀ a ∈ x, Scalar.isFinite a = true := by
  intro a member
  obtain ⟨i, bound, rfl⟩ := List.getElem_of_mem member
  have apart : Scalar.abs (x[i] - y[i]) ∈ List.zipWith (fun a b => Scalar.abs (a - b)) x y :=
    List.mem_iff_getElem.mpr ⟨i, by simpa [← size] using bound, List.getElem_zipWith⟩
  have gap := Scalar.isFinite_of_sum finite _ apart
  rw [Scalar.Ordered.isFinite_abs] at gap
  exact (Distances.isFinite_sub _ _ gap).1

theorem EndsAfter.isFinite (ends : EndsAfter f dimension threshold k x p)
    (size : x.length = dimension) : ∀ a ∈ p, Scalar.isFinite a = true := by
  have start := iterate_length size ends.regular
  have finite := ends.last.2
  rw [change, ← ends.point] at finite
  exact isFinite_of_distance ((ends.length size).trans start.symm) finite

variable [NonnegativeSums α] [Absorbing α]

omit [Scalar.Ordered α] in
/-- A distance that is small is finite. -/
theorem isFinite_of_distance_lt {y : List α} (close : distance x y < threshold) :
    Scalar.isFinite (distance x y) = true := by
  have magnitudes : ∀ d ∈ List.zipWith (fun a b => Scalar.abs (a - b)) x y,
      Scalar.isNaN d = true ∨ 0 ≤ d := by
    intro d member
    obtain ⟨i, bound, rfl⟩ := List.getElem_of_mem member
    rw [List.getElem_zipWith]
    exact Distances.abs_nonneg _
  have number := Distances.isNaN_of_lt _ _ close
  rcases Scalar.sum_isNaN_or_nonneg magnitudes with other | above
  · exact absurd (number.symm.trans other) Bool.false_ne_true
  · exact Distances.isFinite_of_lt _ _ above close

omit [Scalar.Ordered α] in
/-- A walk that reaches a small step ends, with this one or with one before it. -/
theorem exists_endsAfter (regular : ∀ j < k, Regular f dimension ((step f)^[j] x))
    (image : (f ((step f)^[k] x)).length = dimension)
    (close : change f ((step f)^[k] x) < threshold) :
    ∃ j ≤ k, ∃ p, EndsAfter f dimension threshold j x p := by
  -- The walk ends with the first small step, which may come before the one that is given.
  have small : ∃ j, change f ((step f)^[j] x) < threshold := ⟨k, close⟩
  have within : Nat.find small ≤ k := Nat.find_min' small close
  refine ⟨Nat.find small, within, step f ((step f)^[Nat.find small] x), ?_⟩
  constructor
  case regular => exact fun j less => regular j (Nat.lt_of_lt_of_le less within)
  case far => exact fun j less => Nat.find_min small less
  case last =>
    obtain less | same := Nat.lt_or_eq_of_le within
    · exact regular _ less
    · rw [same]
      exact ⟨image, isFinite_of_distance_lt close⟩
  case close => exact Nat.find_spec small
  case point => rfl

end Walks

section Kept

variable {α β : Type} [Scalar α] {tolerance : α} {walk : β → Option (List α)} {starts : List β}
  {points : List (List α)} {p q : List α}

/-! Points that are kept. -/

/-- Agreement within the tolerance in every component. -/
def Within (tolerance : α) : List α → List α → Prop :=
  List.Forall₂ fun a b => Scalar.abs (a - b) ≤ tolerance

theorem near_iff :
    near tolerance p q = true ↔ ∀ a b, (a, b) ∈ p.zip q → Scalar.abs (a - b) ≤ tolerance := by
  rw [near, ← List.map_uncurry_zip_eq_zipWith, List.all_map]
  simp

theorem near_iff_within (size : p.length = q.length) :
    near tolerance p q = true ↔ Within tolerance p q := by
  rw [near_iff, Within, List.forall₂_iff_zip, and_iff_right size]

/-- The points after walks from some starts. -/
def collect (tolerance : α) (walk : β → Option (List α)) (points : List (List α)) (starts : List β) :
    List (List α) :=
  starts.foldl (fun points start => keep tolerance points (walk start)) points

/-- A point is kept at the end, or nothing is. -/
theorem keep_cases (tolerance : α) (points : List (List α)) (found : Option (List α)) :
    keep tolerance points found = points ∧
        (∀ p ∈ found, ∃ q ∈ points, near tolerance q p = true) ∨
      ∃ p, found = some p ∧ keep tolerance points found = points ++ [p] ∧
        ∀ q ∈ points, ¬near tolerance q p = true := by
  cases found with
  | none => exact .inl ⟨rfl, fun _ none => absurd none (Option.not_mem_none _)⟩
  | some p =>
    rw [keep]
    split
    next among =>
      refine .inl ⟨rfl, fun _ same => ?_⟩
      obtain rfl := Option.some.inj same
      exact List.any_eq_true.mp among
    next apart =>
      refine .inr ⟨p, rfl, rfl, fun q member close => apart ?_⟩
      exact List.any_eq_true.mpr ⟨q, member, close⟩

/-- Every start adds one point at most, in order. -/
theorem collect_sublist (tolerance : α) (walk : β → Option (List α)) (points : List (List α))
    (starts : List β) : ∃ kept new, collect tolerance walk points starts = points ++ new ∧
      kept.Sublist starts ∧ List.Forall₂ (fun start p => walk start = some p) kept new := by
  induction starts generalizing points with
  | nil => exact ⟨[], [], (List.append_nil points).symm, .slnil, .nil⟩
  | cons start starts ih =>
    obtain ⟨same, -⟩ | ⟨p, found, added, -⟩ := keep_cases tolerance points (walk start)
    · obtain ⟨kept, new, result, among, ends⟩ := ih points
      refine ⟨kept, new, ?_, among.cons start, ends⟩
      rwa [collect, List.foldl_cons, same]
    · obtain ⟨kept, new, result, among, ends⟩ := ih (points ++ [p])
      refine ⟨start :: kept, p :: new, ?_, among.cons_cons start, .cons found ends⟩
      rw [collect, List.foldl_cons, added, List.append_cons points p new]
      exact result

theorem collect_apart (apart : points.Pairwise fun q p => ¬near tolerance q p = true) :
    (collect tolerance walk points starts).Pairwise fun q p => ¬near tolerance q p = true := by
  induction starts generalizing points with
  | nil => exact apart
  | cons start starts ih =>
    rw [collect, List.foldl_cons]
    obtain ⟨same, -⟩ | ⟨p, -, added, new⟩ := keep_cases tolerance points (walk start)
    · rw [same]
      exact ih apart
    · rw [added]
      refine ih (List.pairwise_append.mpr ⟨apart, List.pairwise_singleton _ p, ?_⟩)
      simpa using new

/-- The end of every walk is kept, or it is near a point that is. -/
theorem collect_complete {start : β} (member : start ∈ starts) (ends : walk start = some p) :
    p ∈ collect tolerance walk points starts ∨
      ∃ q ∈ collect tolerance walk points starts, near tolerance q p = true := by
  induction starts generalizing points with
  | nil => exact absurd member List.not_mem_nil
  | cons first starts ih =>
    rw [collect, List.foldl_cons]
    rcases List.mem_cons.mp member with rfl | later
    · -- What is kept at the start stays, since later starts only add to the points.
      obtain ⟨kept, new, result, -⟩ :=
        collect_sublist tolerance walk (keep tolerance points (walk start)) starts
      rw [collect] at result
      rw [result]
      obtain ⟨same, near⟩ | ⟨q, found, added, -⟩ := keep_cases tolerance points (walk start)
      · obtain ⟨q, among, close⟩ := near p ends
        exact .inr ⟨q, List.mem_append_left new (same.symm ▸ among), close⟩
      · obtain rfl := Option.some.inj (found.symm.trans ends)
        exact .inl (List.mem_append_left new (by simp [added]))
    · exact ih later

end Kept

section Recording

variable {α : Type} [Scalar α] {m : Type → Type} [Monad m]

/-! The search with a map that has effects, which asks the map in the same order. -/

/-- The walk from a point, as `settle?` takes it. -/
def settleM (f : List α → m (List α)) (dimension : Nat) (threshold : α) :
    (budget : Nat) → List α → m (Option (List α))
  | 0, _ => pure none
  | budget + 1, x => do
    let image ← f x
    if image.length ≠ dimension then return none
    else
      let next := halfway x image
      let change := distance next x
      if !Scalar.isFinite change then return none
      else if change < threshold then return some next
      else settleM f dimension threshold budget next

/-- The points after the walk from one more seed. -/
def visitM (tolerance : α) (f : List α → m (List α)) (dimension : Nat) (threshold : α)
    (iterations : Nat) (points : List (List α)) (seed : α) : m (List (List α)) := do
  return keep tolerance points
    (← settleM f dimension threshold iterations (List.replicate dimension seed))

/-- The search, as `search` makes it. -/
def searchM (precision tolerance : α) (f : List α → m (List α)) (dimension iterations : Nat) :
    m (List (List α)) :=
  if dimension = 0 then return []
  else
    let threshold := precision * Scalar.ofNat dimension
    seeds.foldlM (visitM tolerance f dimension threshold iterations) []

/-- The map, with a record of the vectors that it is asked about. -/
def recording (f : List α → List α) (x : List α) : StateM (List (List α)) (List α) :=
  fun asked => (f x, asked ++ [x])

variable {dimension : Nat} {x : List α}

/-- The record does not change the walk, and it grows by vectors of the dimension it starts in. -/
theorem settleM_recording (f : List α → List α) (threshold : α) (budget : Nat)
    (size : x.length = dimension) (asked : List (List α)) :
    ∃ new, settleM (recording f) dimension threshold budget x asked =
        (settle? f dimension threshold budget x, asked ++ new) ∧ ∀ y ∈ new, y.length = dimension := by
  induction budget generalizing x asked with
  | zero => exact ⟨[], by rw [List.append_nil]; rfl, fun _ => nofun⟩
  | succ budget ih =>
    have asksOnce : ∀ y ∈ [x], y.length = dimension := List.forall_mem_singleton.mpr size
    rw [settleM, settle?]
    simp only [bind, StateT.bind, recording]
    split
    next => exact ⟨[x], rfl, asksOnce⟩
    next image =>
      split
      next => exact ⟨[x], rfl, asksOnce⟩
      next =>
        split
        next => exact ⟨[x], rfl, asksOnce⟩
        next =>
          obtain ⟨new, result, sized⟩ :=
            ih (step_length size (not_not.mp image)) (asked ++ [x])
          refine ⟨x :: new, ?_, List.forall_mem_cons.mpr ⟨size, sized⟩⟩
          rw [List.append_cons asked x new]
          exact result

/-- Among several walks, too, the record holds vectors of the right dimension only. -/
theorem foldlM_recording (tolerance : α) (f : List α → List α) (dimension : Nat) (threshold : α)
    (budget : Nat) (starts : List α) (points asked : List (List α)) :
    ∃ new, starts.foldlM (visitM tolerance (recording f) dimension threshold budget) points asked =
      (collect tolerance (fun seed => settle? f dimension threshold budget
        (List.replicate dimension seed)) points starts, asked ++ new) ∧
      ∀ y ∈ new, y.length = dimension := by
  induction starts generalizing points asked with
  | nil => exact ⟨[], by rw [List.append_nil]; rfl, fun _ => nofun⟩
  | cons seed starts ih =>
    have size : (List.replicate dimension seed).length = dimension := List.length_replicate
    obtain ⟨new, walked, sized⟩ := settleM_recording f threshold budget size asked
    obtain ⟨later, result, sizedLater⟩ := ih (keep tolerance points
      (settle? f dimension threshold budget (List.replicate dimension seed))) (asked ++ new)
    refine ⟨new ++ later, ?_, List.forall_mem_append.mpr ⟨sized, sizedLater⟩⟩
    rw [List.foldlM_cons, ← List.append_assoc]
    simp only [visitM, bind, StateT.bind, walked]
    exact result

end Recording

/-! The search. -/

section Search

variable {α : Type} [Scalar α]

/-- What the search is to find, all of it and nothing else. -/
structure Found (precision tolerance : α) (f : List α → List α) (dimension iterations : Nat)
    (points : List (List α)) : Prop where
  /-- The points are those of the search that keeps a record, and the record has vectors of the right
  dimension only. -/
  asked : ∃ record, searchM precision tolerance (recording f) dimension iterations [] =
    (points, record) ∧ ∀ x ∈ record, x.length = dimension
  sized : ∀ p ∈ points, p.length = dimension
  /-- The points are ends of walks from some of the seeds, in the order of the seeds. -/
  ends : ∃ kept, kept.Sublist seeds ∧ List.Forall₂ (fun seed p => ∃ k < iterations,
    EndsAfter f dimension (precision * Scalar.ofNat dimension) k (List.replicate dimension seed) p)
    kept points
  apart : points.Pairwise fun p q => ∃ a b, (a, b) ∈ p.zip q ∧ ¬Scalar.abs (a - b) ≤ tolerance ∧
    (Scalar.isNaN tolerance = false → tolerance < Scalar.abs (a - b))
  /-- A walk that reaches a small step by regular ones has an end, which is found or near one found. -/
  complete : ∀ seed ∈ seeds, ∀ k < iterations,
    (∀ j < k, Regular f dimension ((step f)^[j] (List.replicate dimension seed))) →
    (f ((step f)^[k] (List.replicate dimension seed))).length = dimension →
    change f ((step f)^[k] (List.replicate dimension seed)) < precision * Scalar.ofNat dimension →
      ∃ j ≤ k, ∃ p, EndsAfter f dimension (precision * Scalar.ofNat dimension) j
          (List.replicate dimension seed) p ∧
        (p ∈ points ∨ ∃ q ∈ points, Within tolerance q p) ∧
        (0 ≤ tolerance → ∃ q ∈ points, Within tolerance q p)

variable {precision tolerance : α} {f : List α → List α} {dimension iterations : Nat}

theorem search_eq (positive : 0 < dimension) :
    search precision tolerance f dimension iterations =
      collect tolerance (fun seed => settle? f dimension (precision * Scalar.ofNat dimension)
        iterations (List.replicate dimension seed)) [] seeds := by
  rw [search, if_neg (Nat.ne_of_gt positive)]
  rfl

theorem search_ends (precision tolerance : α) (f : List α → List α) (iterations : Nat)
    (positive : 0 < dimension) : ∃ kept : List α, kept.Sublist seeds ∧ List.Forall₂
      (fun seed p => ∃ k < iterations,
        EndsAfter f dimension (precision * Scalar.ofNat dimension) k (List.replicate dimension seed) p)
      kept (search precision tolerance f dimension iterations) := by
  obtain ⟨kept, new, result, among, ends⟩ := collect_sublist tolerance (fun seed =>
    settle? f dimension (precision * Scalar.ofNat dimension) iterations
      (List.replicate dimension seed)) [] seeds
  refine ⟨kept, among, ?_⟩
  rw [search_eq positive, result, List.nil_append]
  exact ends.imp fun seed p => settle?_eq_some_iff.mp

/-- Every point is the end of some walk. -/
theorem exists_seed_of_mem_search (positive : 0 < dimension) {p : List α}
    (found : p ∈ search precision tolerance f dimension iterations) :
    ∃ seed ∈ seeds, ∃ k < iterations, EndsAfter f dimension (precision * Scalar.ofNat dimension) k
      (List.replicate dimension seed) p := by
  obtain ⟨kept, among, ends⟩ := search_ends precision tolerance f iterations positive
  obtain ⟨i, bound, rfl⟩ := List.getElem_of_mem found
  have start : i < kept.length := ends.length_eq ▸ bound
  exact ⟨kept[i], among.subset (List.getElem_mem start), ends.get start bound⟩

variable [Scalar.Ordered α] [Distances α] [NonnegativeSums α] [Absorbing α]

theorem search_found (positive : 0 < dimension) :
    Found precision tolerance f dimension iterations
      (search precision tolerance f dimension iterations) := by
  have each {p : List α} (found : p ∈ search precision tolerance f dimension iterations) :
      p.length = dimension ∧ ∀ a ∈ p, Scalar.isFinite a = true := by
    obtain ⟨seed, -, k, -, ends⟩ := exists_seed_of_mem_search positive found
    exact ⟨ends.length List.length_replicate, ends.isFinite List.length_replicate⟩
  constructor
  case asked =>
    obtain ⟨record, result, sized⟩ := foldlM_recording tolerance f dimension
      (precision * Scalar.ofNat dimension) iterations seeds [] []
    refine ⟨record, ?_, sized⟩
    rw [searchM, if_neg (Nat.ne_of_gt positive), search_eq positive]
    exact result
  case sized => exact fun p found => (each found).1
  case ends => exact search_ends precision tolerance f iterations positive
  case apart =>
    have apart : (search precision tolerance f dimension iterations).Pairwise fun p q =>
        ¬near tolerance p q = true := by
      rw [search_eq positive]
      exact collect_apart .nil
    refine apart.imp_of_mem fun {p q} first second notNear => ?_
    rw [near_iff] at notNear
    push Not at notNear
    obtain ⟨a, b, member, far⟩ := notNear
    refine ⟨a, b, member, far, fun number => ?_⟩
    obtain ⟨left, right⟩ := List.of_mem_zip member
    exact Distances.lt_abs_sub a b tolerance ((each first).2 a left) ((each second).2 b right) number far
  case complete =>
    intro seed member k within regular image close
    obtain ⟨j, before, p, ends⟩ := exists_endsAfter regular image close
    have settled := settle?_eq_some_iff.mpr ⟨j, Nat.lt_of_le_of_lt before within, ends⟩
    have size := ends.length List.length_replicate
    have kept : p ∈ search precision tolerance f dimension iterations ∨
        ∃ q ∈ search precision tolerance f dimension iterations, Within tolerance q p := by
      rw [search_eq positive]
      refine (collect_complete member settled).imp_right fun ⟨q, found, close⟩ => ⟨q, found, ?_⟩
      rw [← search_eq positive] at found
      exact (near_iff_within ((each found).1.trans size.symm)).mp close
    refine ⟨j, before, p, ends, kept, fun above => ?_⟩
    rcases kept with found | other
    · refine ⟨p, found, List.forall₂_same.mpr fun a part => ?_⟩
      exact Distances.abs_sub_self_le a tolerance ((each found).2 a part) above
    · exact other

end Search

/-! Without rounding. -/

section Exact

theorem halfway_real (x y : List ℝ) : halfway x y = List.zipWith (fun a b => (a + b) / 2) x y := by
  have half (a b : ℝ) : 0.5 * a + 0.5 * b = (a + b) / 2 := by ring
  exact congrArg (fun mean => List.zipWith mean x y) (funext fun a => funext (half a))

theorem distance_real (x y : List ℝ) :
    distance x y = (List.zipWith (fun a b => |a - b|) x y).sum := Scalar.sum_real _

/-- The middle is half as far away as the image. -/
theorem distance_halfway (x y : List ℝ) : distance y x = 2 * distance (halfway x y) x := by
  rw [halfway_real, distance_real, distance_real]
  induction x generalizing y with
  | nil => simp
  | cons a x ih =>
    cases y with
    | nil => simp
    | cons b y =>
      have half : |(a + b) / 2 - a| = |b - a| / 2 := by
        rw [← abs_of_pos (two_pos : (0 : ℝ) < 2), ← abs_div, abs_of_pos (two_pos : (0 : ℝ) < 2)]
        congr 1
        ring
      simp only [List.zipWith_cons_cons, List.sum_cons, half, ih y]
      ring

end Exact

/-- The search is sound and complete for its seeds. It finds the ends of the walks from the seeds in their
order, no two of them near one another, and leaves out only those that are near one found before; and in
exact arithmetic the map moves the last vector of a walk by less than twice the threshold. -/
theorem search_sound_complete :
    (∀ {α : Type} [Scalar α] [Scalar.Ordered α] [Distances α] [NonnegativeSums α] [Absorbing α]
      (precision tolerance : α) (f : List α → List α) (dimension iterations : Nat), 0 < dimension →
        Found precision tolerance f dimension iterations
          (search precision tolerance f dimension iterations)) ∧
    ∀ (precision tolerance : ℝ) (f : List ℝ → List ℝ) (dimension iterations : Nat), 0 < dimension →
      ∀ p ∈ search precision tolerance f dimension iterations,
        ∃ seed ∈ seeds, ∃ k < iterations, ∃ x, x = (step f)^[k] (List.replicate dimension seed) ∧
          p = List.zipWith (fun a b => (a + b) / 2) x (f x) ∧
          (List.zipWith (fun a b => |a - b|) p x).sum < precision * dimension ∧
          (List.zipWith (fun a b => |a - b|) (f x) x).sum < 2 * (precision * dimension) := by
  refine ⟨fun _ _ _ _ _ positive => search_found positive, ?_⟩
  intro precision tolerance f dimension iterations positive p found
  obtain ⟨seed, member, k, within, ends⟩ := exists_seed_of_mem_search positive found
  have close := ends.close
  have point := ends.point
  generalize same : (step f)^[k] (List.replicate dimension seed) = x at close point
  have near : distance p x < precision * dimension := by
    rw [point]
    exact close
  have image : distance (f x) x < 2 * (precision * dimension) := by
    rw [distance_halfway]
    exact mul_lt_mul_of_pos_left close two_pos
  refine ⟨seed, member, k, within, x, same.symm, point.trans (halfway_real x (f x)), ?_, ?_⟩
  · rwa [distance_real] at near
  · rwa [distance_real] at image

/-- Halving in two dimensions moves everything towards zero, where the search finds one point for all
seeds; the walk from one ends with its second step, near enough. -/
theorem search_sound_complete_halving :
    let halve : List Float → List Float := List.map (· / 2)
    let points := search 0.25 1 halve 2 10
    (0 < 2 ∧ Found 0.25 1 halve 2 10 points) ∧ points = [[0, 0]] ∧
      ((0 : Float) ≤ 1 ∧ ∃ j ≤ 1, ∃ p, EndsAfter halve 2 0.5 j [1, 1] p ∧ Within 1 [0, 0] p) ∧
      ∀ p ∈ search (0.25 : ℝ) 1 (List.map (· / 2)) 2 10, ∃ x : List ℝ,
        p = List.zipWith (fun a b => (a + b) / 2) x (x.map (· / 2)) ∧
          (List.zipWith (fun a b => |a - b|) (x.map (· / 2)) x).sum < 1 := by
  intro halve points
  have found : Found 0.25 1 halve 2 10 points :=
    search_sound_complete.1 0.25 1 halve 2 10 (by decide)
  have same : points = [[0, 0]] := by decide +kernel
  have wide : (0 : Float) ≤ 1 := by decide +kernel
  have second : (1 : Float) ∈ seeds := List.mem_cons_of_mem 0 List.mem_cons_self
  have walked := found.complete 1 second 1 (by decide) (by decide +kernel) (by decide +kernel)
    (by decide +kernel)
  obtain ⟨j, before, p, ends, -, near⟩ := walked
  obtain ⟨q, member, close⟩ := near wide
  rw [same, List.mem_singleton] at member
  refine ⟨⟨by decide, found⟩, same, ⟨wide, j, before, p, ends, member ▸ close⟩, fun p member => ?_⟩
  obtain ⟨seed, -, k, -, x, -, point, -, image⟩ :=
    search_sound_complete.2 0.25 1 (List.map (· / 2)) 2 10 (by decide) p member
  exact ⟨x, point, image.trans_eq (by norm_num)⟩

end FormulaLab.FixedPoint
