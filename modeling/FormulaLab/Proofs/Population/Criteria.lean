import FormulaLab.Population.Criterion
import FormulaLab.Proofs.Scalar.Nonnegative

/-! Criteria in use. Whatever criteria a set was given and has given back, its members have distinct names
and are as they were made but for their weights, and these are shares by the weights asked for. -/

namespace FormulaLab

open Scalar (NonnegativeSums)

/-- The criterion with its requested weight, as it was made. -/
def Criterion.asMade {α : Type} (c : Criterion α) : Criterion α := { c with weight := c.requested }

namespace CriteriaSet

/-- Changes to a set of criteria. -/
inductive Call (α : Type) where
  | add (criterion : Criterion α)
  | remove (name : String)

def Call.operands {α : Type} : Call α → List (Criterion α)
  | add criterion => [criterion]
  | remove _ => []

variable {α : Type} [Scalar α]

/-- The criteria that a change gives back, and the set after it. -/
def perform (set : CriteriaSet α) :
    Call α → Except (SelectionError α) (List (Criterion α)) × CriteriaSet α
  | .add criterion =>
    match set.add criterion with
    | .ok after => (.ok [], after)
    | .error e => (.error e, set)
  | .remove name =>
    match set.remove name with
    | .ok (removed, after) => (.ok [removed], after)
    | .error e => (.error e, set)

/-- A set of criteria in use, with the criteria made so far and those at hand: the ones made, copies of
members of the set and what the set has given back. -/
inductive Session : (made atHand : List (Criterion α)) → CriteriaSet α → Prop where
  | start : Session [] [] .empty
  | make {made atHand set} (name : String) (weight threshold : α) (scorer : Candidate α → α) :
      Session made atHand set →
      Session (.new name weight threshold scorer :: made)
        (.new name weight threshold scorer :: atHand) set
  | copy {made atHand set c} : Session made atHand set → c ∈ set.items →
      Session made (c :: atHand) set
  | call {made atHand set} (call : Call α) : Session made atHand set →
      (∀ c ∈ call.operands, c ∈ atHand) →
      Session made ((set.perform call).1.toOption.getD [] ++ atHand) (set.perform call).2

/-- The share of a weight among all requested ones, the same for all of them if their sum is zero. -/
def share (requested : List α) (weight : α) : α :=
  if Scalar.sum requested == 0 then 1 / Scalar.ofNat requested.length
  else weight / Scalar.sum requested

/-- Criteria of different names, made with weights in the unit interval. -/
structure Sound (made items : List (Criterion α)) : Prop where
  distinct : (items.map (·.name)).Nodup
  original : ∀ c ∈ items, c.asMade ∈ made
  within : ∀ c ∈ items, 0 ≤ c.requested ∧ c.requested ≤ 1

/-- The weights are shares, whatever has happened to the set. -/
structure Balanced (made : List (Criterion α)) (set : CriteriaSet α) : Prop
    extends Sound made set.items where
  weights : ∀ c ∈ set.items, c.weight = share (set.items.map (·.requested)) c.requested

/-- How a set answers to changes. The members are told as they were made, since their weights follow from
the requested ones. -/
structure Answers (set : CriteriaSet α) : Prop where
  /-- A new criterion comes last and takes the place of one of the same name. -/
  added : ∀ c, 0 ≤ c.requested ∧ c.requested ≤ 1 → (set.perform (.add c)).1 = .ok [] ∧
    (set.perform (.add c)).2.items.map (·.asMade) =
      (set.items.filter (·.name != c.name)).map (·.asMade) ++ [c.asMade]
  removed : ∀ c ∈ set.items, (set.perform (.remove c.name)).1 = .ok [c] ∧
    (set.perform (.remove c.name)).2.items.map (·.asMade) =
      (set.items.filter (·.name != c.name)).map (·.asMade)
  refusedWeight : ∀ c e, (set.perform (.add c)).1 = .error e ↔
    ¬(0 ≤ c.requested ∧ c.requested ≤ 1) ∧ e = .invalidWeight c.requested
  notANumber : ∀ c, Scalar.isNaN c.requested →
    (set.perform (.add c)).1 = .error (.invalidWeight c.requested)
  refusedName : ∀ name e, (set.perform (.remove name)).1 = .error e ↔
    (∀ c ∈ set.items, c.name ≠ name) ∧ e = .unknownCriterion name
  /-- A refused change leaves the set as it was. -/
  unchanged : ∀ call e, (set.perform call).1 = .error e → (set.perform call).2 = set

variable {set after : CriteriaSet α} {made atHand items rest : List (Criterion α)}
  {call : Call α} {c : Criterion α}

theorem normalize_map {β : Type} (f : Criterion α → β)
    (blind : ∀ c w, f { c with weight := w } = f c) (items : List (Criterion α)) :
    (normalize items).map f = items.map f := by
  rw [normalize, List.map_map]
  exact List.map_congr_left fun c _ => blind c _

theorem Sound.sublist (sound : Sound made items) (part : rest.Sublist items) : Sound made rest where
  distinct := sound.distinct.sublist (part.map _)
  original c member := sound.original c (part.subset member)
  within c member := sound.within c (part.subset member)

theorem Sound.append (sound : Sound made items) (original : c.asMade ∈ made)
    (within : 0 ≤ c.requested ∧ c.requested ≤ 1) (fresh : ∀ d ∈ items, d.name ≠ c.name) :
    Sound made (items ++ [c]) := by
  constructor
  · rw [List.map_append, List.nodup_append]
    refine ⟨sound.distinct, List.nodup_singleton _, ?_⟩
    intro name known other single
    obtain ⟨d, member, rfl⟩ := List.mem_map.mp known
    exact List.mem_singleton.mp single ▸ fresh d member
  · intro d member
    rcases List.mem_append.mp member with old | new
    · exact sound.original d old
    · exact List.mem_singleton.mp new ▸ original
  · intro d member
    rcases List.mem_append.mp member with old | new
    · exact sound.within d old
    · exact List.mem_singleton.mp new ▸ within

/-! Answers. -/

theorem add_eq (within : 0 ≤ c.requested ∧ c.requested ≤ 1) :
    set.add c = .ok ⟨normalize (set.items.filter (·.name != c.name) ++ [c])⟩ := if_pos within

omit [Scalar α] in
/-- With distinct names a name takes out one criterion. -/
theorem eraseP_eq_filter (distinct : (items.map (·.name)).Nodup) (name : String) :
    items.eraseP (·.name == name) = items.filter (·.name != name) := by
  induction items with
  | nil => rfl
  | cons c rest ih =>
    rw [List.map_cons, List.nodup_cons] at distinct
    by_cases same : c.name = name
    · have others : ∀ d ∈ rest, (d.name != name) = true := by
        intro d member
        rw [bne_iff_ne, ← same]
        exact fun again => distinct.1 (again ▸ List.mem_map_of_mem member)
      rw [List.eraseP_cons_of_pos (by simp [same]), List.filter_cons_of_neg (by simp [same]),
        List.filter_eq_self.mpr others]
    · rw [List.eraseP_cons_of_neg (by simpa using same), List.filter_cons_of_pos (by simpa using same),
        ih distinct.2]

theorem remove_eq (distinct : (set.items.map (·.name)).Nodup) (member : c ∈ set.items) :
    set.remove c.name = .ok (c, ⟨normalize (set.items.filter (·.name != c.name))⟩) := by
  unfold CriteriaSet.remove
  split
  next d found =>
    have same : d.name = c.name := by simpa using List.find?_some found
    obtain rfl : d = c :=
      List.inj_on_of_nodup_map distinct (List.mem_of_find?_eq_some found) member same
    rw [eraseP_eq_filter distinct]
  next absent => exact absurd (beq_self_eq_true c.name) (List.find?_eq_none.mp absent c member)

theorem add_error_iff {e : SelectionError α} : set.add c = .error e ↔
    ¬(0 ≤ c.requested ∧ c.requested ≤ 1) ∧ e = .invalidWeight c.requested := by
  unfold CriteriaSet.add
  split
  next within =>
    constructor
    · intro impossible
      contradiction
    · rintro ⟨outside, _⟩
      exact absurd within outside
  next outside =>
    rw [Except.error.injEq, and_iff_right outside, eq_comm]

theorem remove_error_iff {name : String} {e : SelectionError α} : set.remove name = .error e ↔
    (∀ c ∈ set.items, c.name ≠ name) ∧ e = .unknownCriterion name := by
  unfold CriteriaSet.remove
  split
  next d found =>
    have same : d.name = name := by simpa using List.find?_some found
    constructor
    · intro impossible
      contradiction
    · rintro ⟨absent, _⟩
      exact absurd same (absent d (List.mem_of_find?_eq_some found))
  next absent =>
    have absent : ∀ c ∈ set.items, c.name ≠ name := by
      intro c member same
      exact List.find?_eq_none.mp absent c member (beq_iff_eq.mpr same)
    rw [Except.error.injEq, and_iff_right absent, eq_comm]

theorem perform_add_error_iff {e : SelectionError α} :
    (set.perform (.add c)).1 = .error e ↔ set.add c = .error e := by
  simp only [perform]
  cases set.add c with
  | error => simp
  | ok => simp

theorem perform_remove_error_iff {name : String} {e : SelectionError α} :
    (set.perform (.remove name)).1 = .error e ↔ set.remove name = .error e := by
  simp only [perform]
  cases set.remove name with
  | error => simp
  | ok => simp

theorem perform_unchanged {e : SelectionError α} (refused : (set.perform call).1 = .error e) :
    (set.perform call).2 = set := by
  cases call with
  | add c =>
    simp only [perform, perform_add_error_iff.mp refused]
  | remove name =>
    simp only [perform, perform_remove_error_iff.mp refused]

variable [NonnegativeSums α]

theorem normalize_weight (sound : Sound made items) :
    ∀ c ∈ normalize items, c.weight = share (items.map (·.requested)) c.requested := by
  have above : 0 ≤ Scalar.sum (items.map (·.requested)) := by
    refine Scalar.sum_nonneg fun w member => ?_
    obtain ⟨c, among, rfl⟩ := List.mem_map.mp member
    exact (sound.within c among).1
  intro c member
  obtain ⟨d, _, rfl⟩ := List.mem_map.mp member
  dsimp only
  rw [share, List.length_map]
  simp only [NonnegativeSums.pos_iff _ above, ite_not]

theorem Sound.balanced (sound : Sound made items) : Balanced made ⟨normalize items⟩ where
  distinct := by
    rw [normalize_map _ fun _ _ => rfl]
    exact sound.distinct
  original c member := by
    obtain ⟨d, among, rfl⟩ := List.mem_map.mp member
    exact sound.original d among
  within c member := by
    obtain ⟨d, among, rfl⟩ := List.mem_map.mp member
    exact sound.within d among
  weights := by
    rw [normalize_map _ fun _ _ => rfl]
    exact normalize_weight sound

theorem Balanced.add (balanced : Balanced made set) (original : c.asMade ∈ made)
    (added : set.add c = .ok after) : Balanced made after := by
  unfold CriteriaSet.add at added
  split at added
  next within =>
    cases added
    refine Sound.balanced (Sound.append (balanced.toSound.sublist List.filter_sublist) original within ?_)
    intro d member
    exact bne_iff_ne.mp (List.mem_filter.mp member).2
  next => contradiction

theorem Balanced.remove {name : String} (balanced : Balanced made set)
    (removed : set.remove name = .ok (c, after)) : c.asMade ∈ made ∧ Balanced made after := by
  unfold CriteriaSet.remove at removed
  split at removed
  next criterion found =>
    cases removed
    exact ⟨balanced.original c (List.mem_of_find?_eq_some found),
      (balanced.toSound.sublist List.eraseP_sublist).balanced⟩
  next => contradiction

/-- A change keeps the set balanced, and what it gives back was made. -/
theorem Balanced.perform (balanced : Balanced made set)
    (original : ∀ c ∈ call.operands, c.asMade ∈ made) :
    Balanced made (set.perform call).2 ∧
      ∀ c ∈ (set.perform call).1.toOption.getD [], c.asMade ∈ made := by
  cases call with
  | add criterion =>
    cases added : set.add criterion with
    | error e =>
      simp only [CriteriaSet.perform, added]
      exact ⟨balanced, List.forall_mem_nil _⟩
    | ok after =>
      simp only [CriteriaSet.perform, added]
      exact ⟨balanced.add (original criterion List.mem_cons_self) added, List.forall_mem_nil _⟩
  | remove name =>
    cases removed : set.remove name with
    | error e =>
      simp only [CriteriaSet.perform, removed]
      exact ⟨balanced, List.forall_mem_nil _⟩
    | ok given =>
      obtain ⟨back, after⟩ := given
      obtain ⟨known, left⟩ := balanced.remove removed
      simp only [CriteriaSet.perform, removed]
      exact ⟨left, List.forall_mem_singleton.mpr known⟩

theorem Session.balanced (session : Session made atHand set) :
    Balanced made set ∧ ∀ c ∈ atHand, c.asMade ∈ made := by
  induction session with
  | start => exact ⟨⟨⟨by simp [empty], by simp [empty], by simp [empty]⟩, by simp [empty]⟩, by simp⟩
  | make name weight threshold scorer _ ih =>
    obtain ⟨⟨⟨distinct, original, within⟩, weights⟩, known⟩ := ih
    refine ⟨⟨⟨distinct, fun c member => .tail _ (original c member), within⟩, weights⟩, ?_⟩
    rw [List.forall_mem_cons]
    exact ⟨.head _, fun c member => .tail _ (known c member)⟩
  | copy _ member ih =>
    obtain ⟨balanced, known⟩ := ih
    exact ⟨balanced, List.forall_mem_cons.mpr ⟨balanced.original _ member, known⟩⟩
  | call call _ operands ih =>
    obtain ⟨balanced, known⟩ := ih
    obtain ⟨still, given⟩ := balanced.perform fun c member => known c (operands c member)
    exact ⟨still, List.forall_mem_append.mpr ⟨given, known⟩⟩

theorem Balanced.answers (balanced : Balanced made set) : Answers set where
  added c within := by
    simp only [CriteriaSet.perform, add_eq within, true_and]
    rw [normalize_map _ fun _ _ => rfl, List.map_append, List.map_singleton]
  removed c member := by
    simp only [CriteriaSet.perform, remove_eq balanced.distinct member, true_and]
    exact normalize_map _ (fun _ _ => rfl) _
  refusedWeight _ _ := perform_add_error_iff.trans add_error_iff
  notANumber c other := by
    refine perform_add_error_iff.mpr (add_error_iff.mpr ⟨fun within => ?_, rfl⟩)
    rw [NonnegativeSums.isNaN_of_nonneg _ within.1] at other
    contradiction
  refusedName _ _ := perform_remove_error_iff.trans remove_error_iff
  unchanged _ _ := perform_unchanged

end CriteriaSet
end FormulaLab
