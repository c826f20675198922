import Mathlib.Data.List.Induction
import FormulaLab.Proofs.Rulebook.Registry

/-! Rules come and go. A ledger of what was registered and removed, in no order but that of the calls,
tells which rules a rulebook holds, in which order, and which of them answers. -/

namespace FormulaLab.Rulebook

variable {α : Type}

/-- Changes to a rulebook. -/
inductive Call (α : Type) where
  | register (rule : Rule α)
  | unregister (name : String)

/-- The rules that a change gives back, and the rulebook after it. -/
def perform (book : Rulebook α) : Call α → Except SynthesisError (List (Rule α)) × Rulebook α
  | .register rule => (.ok [], book.register rule)
  | .unregister name =>
    match book.unregister name with
    | .ok (rule, rest) => (.ok [rule], rest)
    | .error e => (.error e, book)

def after (calls : List (Call α)) : Rulebook α :=
  calls.foldl (fun book call => (book.perform call).2) empty

/-- A rule that was registered, and the number of calls before that. -/
structure Registration (α : Type) where
  turn : Nat
  rule : Rule α

def registrations (calls : List (Call α)) : List (Registration α) :=
  calls.zipIdx.filterMap fun
    | (.register rule, turn) => some ⟨turn, rule⟩
    | (.unregister _, _) => none

namespace Registration

/-- A higher priority goes ahead, and within a priority the earlier registration. -/
def Ahead (r s : Registration α) : Prop :=
  s.rule.priority < r.rule.priority ∨ r.rule.priority = s.rule.priority ∧ r.turn < s.turn

instance (r s : Registration α) : Decidable (r.Ahead s) := inferInstanceAs (Decidable (_ ∨ _))

/-- No other registration of the name goes ahead of this one. -/
def Foremost (name : String) (present : List (Registration α)) (r : Registration α) : Prop :=
  r.rule.name = name ∧ ∀ s ∈ present, s.rule.name = name → ¬s.Ahead r

instance (name : String) (present : List (Registration α)) (r : Registration α) :
    Decidable (r.Foremost name present) := inferInstanceAs (Decidable (_ ∧ _))

theorem Ahead.asymm {r s : Registration α} (ahead : r.Ahead s) : ¬s.Ahead r := by
  unfold Ahead at ahead ⊢
  omega

end Registration

open Registration (Ahead Foremost)

/-- The registrations that are left and those that are gone. -/
structure Ledger (α : Type) where
  /-- Number of calls so far. -/
  turn : Nat
  /-- In order of registration. -/
  present : List (Registration α)
  removed : List (Registration α)

namespace Ledger

/-- A name takes out its foremost registration, wherever that stands. -/
def enter (ledger : Ledger α) : Call α → Ledger α
  | .register rule =>
    { turn := ledger.turn + 1
      present := ledger.present ++ [⟨ledger.turn, rule⟩]
      removed := ledger.removed }
  | .unregister name =>
    { turn := ledger.turn + 1
      present := ledger.present.filter fun r => ¬r.Foremost name ledger.present
      removed := ledger.removed ++ ledger.present.filter fun r => r.Foremost name ledger.present }

def after (calls : List (Call α)) : Ledger α := calls.foldl enter ⟨0, [], []⟩

theorem after_concat (calls : List (Call α)) (call : Call α) :
    after (calls ++ [call]) = (after calls).enter call := by
  rw [after, List.foldl_append, List.foldl_cons, List.foldl_nil, ← after]

theorem after_turn (calls : List (Call α)) : (after calls).turn = calls.length := by
  induction calls using List.reverseRecOn with
  | nil => rfl
  | append_singleton calls call ih =>
    rw [after_concat, List.length_append, List.length_singleton, ← ih]
    cases call <;> rfl

theorem registrations_concat (calls : List (Call α)) (call : Call α) :
    registrations (calls ++ [call]) = registrations calls ++
      match call with
      | .register rule => [⟨calls.length, rule⟩]
      | .unregister _ => [] := by
  rw [registrations, List.zipIdx_append, List.filterMap_append, ← registrations, Nat.zero_add]
  cases call <;> rfl

theorem turn_lt_of_mem_registrations {calls : List (Call α)} {r : Registration α}
    (member : r ∈ registrations calls) : r.turn < calls.length := by
  obtain ⟨⟨call, turn⟩, entered, made⟩ := List.mem_filterMap.mp member
  cases call with
  | register rule =>
    cases made
    exact List.snd_lt_of_mem_zipIdx entered
  | unregister name => contradiction

/-- Every registration is left or gone. -/
theorem accounts (calls : List (Call α)) :
    ((after calls).present ++ (after calls).removed).Perm (registrations calls) := by
  induction calls using List.reverseRecOn with
  | nil => exact .nil
  | append_singleton calls call ih =>
    have turn := after_turn calls
    rw [after_concat, registrations_concat]
    generalize after calls = ledger at ih turn ⊢
    cases call with
    | register rule =>
      simp only [enter, turn, List.append_assoc, List.singleton_append]
      exact List.perm_middle.trans ((ih.cons _).trans (List.perm_append_singleton _ _).symm)
    | unregister name =>
      have parted := List.filter_append_perm (fun r => decide (r.Foremost name ledger.present))
        ledger.present
      simp only [enter, decide_not, List.append_nil]
      calc _ ++ (ledger.removed ++ _)
        _ = (_ ++ ledger.removed) ++ _ := (List.append_assoc _ _ _).symm
        _ |>.Perm _ := List.perm_append_comm
        _ = _ := (List.append_assoc _ _ _).symm
        _ |>.Perm _ := (parted.append_right ledger.removed).trans ih

theorem earlier (calls : List (Call α)) : ∀ r ∈ (after calls).present, r.turn < calls.length :=
  fun _ member => turn_lt_of_mem_registrations
    ((accounts calls).subset (List.mem_append_left _ member))

end Ledger

/-- A rulebook lists registrations from the foremost on. -/
structure Lists (book : Rulebook α) (present order : List (Registration α)) : Prop where
  complete : order.Perm present
  ascending : order.Pairwise Ahead
  rules : book.rules = order.map (·.rule)

/-- How a rulebook answers that lists registrations in an order. -/
structure Answers (book : Rulebook α) (order : List (Registration α)) : Prop where
  /-- Of the rules that apply, the foremost one is found. -/
  matched : ∀ f rule, book.firstMatch? f = some rule ↔
    ∃ r ∈ order, r.rule = rule ∧ rule.pattern f = true ∧
      ∀ s ∈ order, s.rule.pattern f = true → s = r ∨ r.Ahead s
  unmatched : ∀ f, book.firstMatch? f = none ↔ ∀ r ∈ order, r.rule.pattern f = false
  /-- The first rule of a name is taken out, and the others stay in order. -/
  removed : ∀ name rule rest, book.unregister name = .ok (rule, rest) ↔
    ∃ before r behind, order = before ++ r :: behind ∧ r.rule = rule ∧ rule.name = name ∧
      (∀ s ∈ before, s.rule.name ≠ name) ∧ rest.rules = (before ++ behind).map (·.rule)
  refused : ∀ name e, book.unregister name = .error e ↔
    (∀ r ∈ order, r.rule.name ≠ name) ∧ e = .unknownRule name
  /-- A refused change leaves the rulebook as it was. -/
  unchanged : ∀ call e, (book.perform call).1 = .error e → (book.perform call).2 = book

variable {book : Rulebook α} {present order before behind : List (Registration α)}
  {r : Registration α} {name : String} {e : SynthesisError} {call : Call α}

/-! The first registration among some. -/

theorem find?_name_iff : order.find? (·.rule.name == name) = some r ↔
    ∃ before behind, order = before ++ r :: behind ∧ r.rule.name = name ∧
      ∀ s ∈ before, s.rule.name ≠ name := by
  simp only [List.find?_eq_some_iff_append, beq_iff_eq, Bool.not_eq_true', beq_eq_false_iff_ne]
  constructor
  · rintro ⟨named, before, behind, split, others⟩
    exact ⟨before, behind, split, named, others⟩
  · rintro ⟨before, behind, split, named, others⟩
    exact ⟨named, before, behind, split, others⟩

theorem find?_name_eq_none :
    order.find? (·.rule.name == name) = none ↔ ∀ r ∈ order, r.rule.name ≠ name := by
  simp only [List.find?_eq_none, beq_iff_eq, ne_eq]

theorem eraseP_first (named : r.rule.name = name) (others : ∀ s ∈ before, s.rule.name ≠ name) :
    (before ++ r :: behind).eraseP (·.rule.name == name) = before ++ behind := by
  rw [List.eraseP_append_right _ (by simpa using others),
    List.eraseP_cons_of_pos (by simpa using named)]

theorem eraseP_absent (absent : ∀ r ∈ order, r.rule.name ≠ name) :
    order.eraseP (·.rule.name == name) = order :=
  List.eraseP_of_forall_not (by simpa using absent)

/-- What is found first is ahead of all else that could be found. -/
theorem find?_ahead (ascending : order.Pairwise Ahead) (p : Registration α → Bool)
    (r : Registration α) : order.find? p = some r ↔
      r ∈ order ∧ p r = true ∧ ∀ s ∈ order, p s = true → s = r ∨ r.Ahead s := by
  have ahead {r : Registration α} (found : order.find? p = some r) :
      ∀ s ∈ order, p s = true → s = r ∨ r.Ahead s := by
    obtain ⟨-, before, behind, split, others⟩ := List.find?_eq_some_iff_append.mp found
    rw [split, List.pairwise_append, List.pairwise_cons] at ascending
    intro s member holds
    rw [split, List.mem_append, List.mem_cons] at member
    obtain early | rfl | late := member
    · exact absurd holds (by simpa using others s early)
    · exact .inl rfl
    · exact .inr (ascending.2.1.1 s late)
  constructor
  · exact fun found => ⟨List.mem_of_find?_eq_some found, List.find?_some found, ahead found⟩
  · rintro ⟨member, holds, first⟩
    obtain ⟨s, found⟩ := Option.isSome_iff_exists.mp (List.find?_isSome.mpr ⟨r, member, holds⟩)
    obtain rfl | less := first s (List.mem_of_find?_eq_some found) (List.find?_some found)
    · exact found
    · obtain rfl | more := ahead found r member holds
      · exact found
      · exact absurd more less.asymm

/-- The first registration of a name is the only foremost one. -/
theorem filter_foremost (lists : book.Lists present order) (name : String) :
    order.filter (fun r => ¬r.Foremost name present) = order.eraseP (·.rule.name == name) := by
  cases found : order.find? (·.rule.name == name) with
  | none =>
    have absent := find?_name_eq_none.mp found
    rw [eraseP_absent absent, List.filter_eq_self]
    exact fun r member => decide_eq_true fun foremost => absent r member foremost.1
  | some r =>
    obtain ⟨member, -, first⟩ := (find?_ahead lists.ascending _ r).mp found
    obtain ⟨before, behind, split, named, others⟩ := find?_name_iff.mp found
    have foremost : r.Foremost name present := by
      refine ⟨named, fun s among same => ?_⟩
      obtain rfl | ahead := first s (lists.complete.mem_iff.mpr among) (beq_iff_eq.mpr same)
      · exact fun ahead => ahead.asymm ahead
      · exact ahead.asymm
    have ascending := lists.ascending
    rw [split, List.pairwise_append, List.pairwise_cons] at ascending
    have kept : ∀ s ∈ before ++ behind, ¬s.Foremost name present := by
      intro s among last
      obtain early | late := List.mem_append.mp among
      · exact others s early last.1
      · exact last.2 r (lists.complete.mem_iff.mp member) named (ascending.2.1.1 s late)
    rw [split, eraseP_first named others, List.filter_append,
      List.filter_cons_of_neg (by simpa using foremost), ← List.filter_append, List.filter_eq_self]
    exact fun s among => decide_eq_true (kept s among)

/-! Changes and answers. -/

namespace Lists

theorem descending (lists : book.Lists present order) :
    (order.map (·.rule)).Pairwise fun first second => second.priority ≤ first.priority := by
  refine List.pairwise_map.mpr (lists.ascending.imp fun ahead => ?_)
  unfold Ahead at ahead
  omega

theorem register (lists : book.Lists present order) (rule : Rule α) {turn : Nat}
    (earlier : ∀ r ∈ present, r.turn < turn) :
    ∃ next, (book.register rule).Lists (present ++ [⟨turn, rule⟩]) next := by
  let reaches (r : Registration α) : Bool := decide (rule.priority ≤ r.rule.priority)
  have split : order.takeWhile reaches ++ order.dropWhile reaches = order :=
    List.takeWhile_append_dropWhile
  have lower := below_of_descending rule.priority lists.descending
  rw [List.dropWhile_map, List.forall_mem_map] at lower
  have ascending := lists.ascending
  rw [← split, List.pairwise_append] at ascending
  obtain ⟨first, second, across⟩ := ascending
  refine ⟨order.takeWhile reaches ++ ⟨turn, rule⟩ :: order.dropWhile reaches, ?_, ?_, ?_⟩
  · refine List.perm_middle.trans (.trans (.cons _ ?_) (List.perm_append_singleton _ _).symm)
    rw [split]
    exact lists.complete
  · refine List.pairwise_append.mpr ⟨first, List.pairwise_cons.mpr ⟨?_, second⟩, ?_⟩
    · exact fun s member => .inl (lower s member)
    · intro r member
      have notLower : rule.priority ≤ r.rule.priority := by
        simpa [reaches] using List.mem_takeWhile_imp member
      have old := earlier r (lists.complete.mem_iff.mp (List.takeWhile_subset reaches member))
      refine List.forall_mem_cons.mpr ⟨?_, across r member⟩
      unfold Ahead
      dsimp only
      omega
  · rw [Rulebook.register, lists.rules, List.takeWhile_map, List.dropWhile_map, List.map_append,
      List.map_cons]
    rfl

theorem unregister_eq (lists : book.Lists present order) (name : String) :
    book.unregister name =
      match order.find? (·.rule.name == name) with
      | some r => .ok (r.rule, ⟨(order.eraseP (·.rule.name == name)).map (·.rule)⟩)
      | none => .error (.unknownRule name) := by
  rw [Rulebook.unregister, lists.rules, List.find?_map, List.eraseP_map]
  simp only [Function.comp_def]
  cases order.find? (·.rule.name == name) with
  | none => rfl
  | some r => rfl

theorem unregister (lists : book.Lists present order) (name : String) :
    ∃ next, (book.perform (.unregister name)).2.Lists
      (present.filter fun r => ¬r.Foremost name present) next := by
  refine ⟨order.eraseP (·.rule.name == name), ?_, ?_, ?_⟩
  · rw [← filter_foremost lists]
    exact lists.complete.filter _
  · exact lists.ascending.sublist List.eraseP_sublist
  · rw [perform, lists.unregister_eq]
    cases found : order.find? (·.rule.name == name) with
    | some r => rfl
    | none =>
      rw [eraseP_absent (find?_name_eq_none.mp found)]
      exact lists.rules

theorem firstMatch?_eq (lists : book.Lists present order) (f : Formula α) :
    book.firstMatch? f = (order.find? (·.rule.pattern f)).map (·.rule) := by
  rw [firstMatch?, lists.rules, List.find?_map]
  rfl

theorem unregister_ok_iff (lists : book.Lists present order) {rule : Rule α}
    {rest : Rulebook α} : book.unregister name = .ok (rule, rest) ↔
      ∃ before r behind, order = before ++ r :: behind ∧ r.rule = rule ∧ rule.name = name ∧
        (∀ s ∈ before, s.rule.name ≠ name) ∧ rest.rules = (before ++ behind).map (·.rule) := by
  rw [lists.unregister_eq]
  constructor
  · intro removed
    split at removed
    next r found =>
      cases removed
      obtain ⟨before, behind, split, named, others⟩ := find?_name_iff.mp found
      refine ⟨before, r, behind, split, rfl, named, others, ?_⟩
      rw [split, eraseP_first named others]
    next => contradiction
  · rintro ⟨before, r, behind, rfl, rfl, named, others, rules⟩
    rw [find?_name_iff.mpr ⟨before, behind, rfl, named, others⟩, eraseP_first named others, ← rules]

theorem unregister_error_iff (lists : book.Lists present order) :
    book.unregister name = .error e ↔
      (∀ r ∈ order, r.rule.name ≠ name) ∧ e = .unknownRule name := by
  rw [lists.unregister_eq, ← find?_name_eq_none]
  split
  next r found => simp [found]
  next absent => simp [absent, eq_comm]

end Lists

theorem perform_unchanged (refused : (book.perform call).1 = .error e) :
    (book.perform call).2 = book := by
  cases call with
  | register rule => contradiction
  | unregister name =>
    cases removed : book.unregister name with
    | ok given => simp [perform, removed] at refused
    | error e => simp only [perform, removed]

theorem Lists.answers (lists : book.Lists present order) : book.Answers order where
  matched f rule := by
    simp only [lists.firstMatch?_eq, Option.map_eq_some_iff, find?_ahead lists.ascending]
    constructor
    · rintro ⟨r, ⟨member, applies, first⟩, rfl⟩
      exact ⟨r, member, rfl, applies, first⟩
    · rintro ⟨r, member, rfl, applies, first⟩
      exact ⟨r, ⟨member, applies, first⟩, rfl⟩
  unmatched f := by
    simp only [lists.firstMatch?_eq, Option.map_eq_none_iff, List.find?_eq_none, Bool.not_eq_true]
  removed _ _ _ := lists.unregister_ok_iff
  refused _ _ := lists.unregister_error_iff
  unchanged _ _ := perform_unchanged

/-- After any calls the rulebook lists what the ledger has left. -/
theorem exists_lists (calls : List (Call α)) :
    ∃ order, (after calls).Lists (Ledger.after calls).present order := by
  induction calls using List.reverseRecOn with
  | nil => exact ⟨[], .nil, .nil, rfl⟩
  | append_singleton calls call ih =>
    obtain ⟨order, lists⟩ := ih
    rw [after, List.foldl_append, List.foldl_cons, List.foldl_nil, ← after, Ledger.after_concat]
    cases call with
    | register rule =>
      have earlier := Ledger.earlier calls
      rw [← Ledger.after_turn calls] at earlier
      exact lists.register rule earlier
    | unregister name => exact lists.unregister name

/-- However rules are registered and unregistered, the rulebook holds exactly the registrations that
are left, the foremost first, and answers with the foremost one. -/
theorem registrations_in_order (calls : List (Call α)) :
    ((Ledger.after calls).present ++ (Ledger.after calls).removed).Perm (registrations calls) ∧
      ∃ order, (after calls).Lists (Ledger.after calls).present order ∧
        (after calls).Answers order := by
  obtain ⟨order, lists⟩ := exists_lists calls
  exact ⟨Ledger.accounts calls, order, lists, lists.answers⟩

end FormulaLab.Rulebook
