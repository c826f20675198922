import FormulaLab.Formula.Render
import FormulaLab.Proofs.Formula.Correspondence
import Mathlib.Data.Nat.Digits.Defs
import Mathlib.Logic.Function.Basic

/-! Renaming of ids. A renaming is alike in everything but ids, and since distinct numbers have distinct
ids, the ids drawn from one counter can be renamed one to one to those drawn from any other. -/

namespace FormulaLab

/-! Distinct ids. -/

/-- Value of a lower-case hexadecimal digit. -/
def hexDigit (c : Char) : Nat :=
  if c.toNat < 'a'.toNat then c.toNat - '0'.toNat else c.toNat - 'a'.toNat + 10

/-- Value of a hexadecimal number, the highest digit first. -/
def hexValue (digits : List Char) : Nat := digits.foldl (fun value c => 16 * value + hexDigit c) 0

theorem hexDigit_digitChar {d : Nat} (digit : d < 16) : hexDigit d.digitChar = d := by
  revert d
  decide

theorem hexValue_toDigits (n : Nat) : hexValue (Nat.toDigits 16 n) = n := by
  induction n using Nat.strongRecOn with
  | ind n ih =>
    by_cases single : n < 16
    · rw [Nat.toDigits_of_lt_base single]
      simp [hexValue, hexDigit_digitChar single]
    · have last : n % 16 < 16 := Nat.mod_lt n (by decide)
      rw [Nat.toDigits_of_base_le (by decide) (Nat.le_of_not_lt single), hexValue, List.foldl_append]
      have higher := ih (n / 16) (by omega)
      rw [hexValue] at higher
      rw [higher, List.foldl_cons, List.foldl_nil, hexDigit_digitChar last]
      omega

theorem hexValue_padded (width : Nat) (digits : List Char) :
    hexValue (List.replicate width '0' ++ digits) = hexValue digits := by
  induction width with
  | zero => rfl
  | succ width ih => exact ih

/-- The last group of digits of an id. -/
def idDigits (n : Nat) : List Char :=
  List.replicate (12 - (Nat.toDigits 16 n).length) '0' ++ Nat.toDigits 16 n

theorem nodeId_eq (n : Nat) : nodeId n = "00000000-0000-7000-8000-" ++ String.ofList (idDigits n) := rfl

theorem nodeId_injective : Function.Injective nodeId := by
  intro m n same
  rw [nodeId_eq, nodeId_eq, String.append_right_inj, String.ofList_inj] at same
  have values := congrArg hexValue same
  rwa [idDigits, idDigits, hexValue_padded, hexValue_padded, hexValue_toDigits,
    hexValue_toDigits] at values

/-- The ids of a formula under other names. -/
def Formula.rename {α : Type} (names : String → String) : Formula α → Formula α :=
  fold fun f below => node (names f.id) f.head below

def Analysis.rename {α : Type} (names : String → String) (x : Analysis α) : Analysis α :=
  { x with formula := x.formula.rename names }

/-- Ids and their names. -/
def Named (names : String → String) (id name : String) : Prop := names id = name

theorem named_biUnique {names : String → String} (distinct : Function.Injective names) :
    Relator.BiUnique (Named names) := by
  constructor
  · intro i j name first second
    exact distinct (Eq.trans first (Eq.symm second))
  · intro id i j first second
    exact Eq.trans (Eq.symm first) second

/-- The ids drawn from one counter can be renamed one to one to those drawn from another. -/
theorem exists_renaming (m n : Nat) :
    ∃ names : String → String, Function.Injective names ∧ Fresh.Aligned (Named names) m n := by
  have drawn (start : Nat) : Function.Injective fun k => nodeId (start + k) := by
    intro i j same
    exact Nat.add_left_cancel (nodeId_injective same)
  -- Ids that are not drawn go to texts that start with another character than an id does.
  let names := Function.extend (fun k => nodeId (m + k)) (fun k => nodeId (n + k)) ("-" ++ ·)
  have named (k : Nat) : names (nodeId (m + k)) = nodeId (n + k) := (drawn m).extend_apply _ _ k
  have other {s : String} (outside : ¬∃ k, nodeId (m + k) = s) : names s = "-" ++ s :=
    Function.extend_apply' _ _ s outside
  have apart (s : String) (k : Nat) : "-" ++ s ≠ nodeId k := by
    intro same
    have firsts := congrArg (fun text => text.toList.head?) same
    rw [nodeId_eq] at firsts
    simp at firsts
  refine ⟨names, ?_, named⟩
  intro s t same
  by_cases first : ∃ k, nodeId (m + k) = s
  · obtain ⟨i, rfl⟩ := first
    by_cases second : ∃ k, nodeId (m + k) = t
    · obtain ⟨j, rfl⟩ := second
      rw [named, named] at same
      rw [drawn n same]
    · rw [named, other second] at same
      exact absurd same.symm (apart t _)
  · by_cases second : ∃ k, nodeId (m + k) = t
    · obtain ⟨j, rfl⟩ := second
      rw [named, other first] at same
      exact absurd same (apart s _)
    · rw [other first, other second, String.append_right_inj] at same
      exact same

namespace Formula

variable {α : Type} {names : String → String} {f g : Formula α}

theorem rename_node (id : String) (head : Head α) (children : List (Formula α)) :
    (node id head children).rename names = node (names id) head (children.map (rename names)) :=
  fold_node _ id head children

theorem alike_rename (names : String → String) (f : Formula α) :
    f.Alike (Named names) (· = ·) (f.rename names) := by
  induction f with
  | node id head children ih =>
    rw [rename_node]
    refine .node rfl rfl ?_
    rw [List.forall₂_map_right_iff, List.forall₂_same]
    exact ih

theorem Alike.eq_rename (alike : f.Alike (Named names) (· = ·) g) : g = f.rename names := by
  induction f generalizing g with
  | node id head children ih =>
    cases alike with
    | node named same below =>
      subst named same
      have renamed := forall₂_imp_of_mem (fun child member _ alike => ih child member alike) below
      rw [rename_node, eq_map_of_forall₂ renamed]

theorem rename_verify [Scalar α] (distinct : Function.Injective names) (f : Formula α) :
    (f.rename names).verify = f.verify :=
  ((alike_rename names f).verify (named_biUnique distinct)).symm

theorem rename_render [NumberText α] (names : String → String) (f : Formula α) :
    (f.rename names).render = f.render := by
  refine ((alike_rename names f).fold_eq fun {f g} alike texts => ?_).symm
  cases alike with
  | node _ same _ =>
    subst same
    rfl

end Formula

theorem Analysis.Alike.eq_rename {α : Type} {names : String → String} {x y : Analysis α}
    (alike : x.Alike (Named names) (· = ·) y) : y = x.rename names := by
  rw [alike.measures, Analysis.rename, ← alike.formula.eq_rename]

end FormulaLab
