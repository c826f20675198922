import FormulaLab.Formula.Synthesis
import FormulaLab.Text.Quoted

/-! Rules that replace nodes, and the rulebook, which keeps them in descending priority and, within a
priority, in order of registration. -/

namespace FormulaLab

/-- A named rule: where it applies and what it makes of a node. -/
structure Rule (α : Type) where
  name : String
  priority : Int
  /-- Whether the replacement has a meaningful inverse. Nothing depends on it. -/
  reversible : Bool
  pattern : Formula α → Bool
  transform : Formula α → Fresh (Formula α)

/-- Listing of a rule without its functions. -/
def Rule.describe {α : Type} (rule : Rule α) : String :=
  "TransformRule \x7b name: " ++ Text.quoted rule.name
    ++ s!", priority: {rule.priority}, reversible: {rule.reversible} \x7d"

structure Rulebook (α : Type) where
  rules : List (Rule α)

namespace Rulebook

variable {α : Type}

def empty : Rulebook α := ⟨[]⟩

/-- The rule goes behind every rule of at least its priority. -/
def register (book : Rulebook α) (rule : Rule α) : Rulebook α :=
  let before (other : Rule α) : Bool := decide (rule.priority ≤ other.priority)
  ⟨book.rules.takeWhile before ++ rule :: book.rules.dropWhile before⟩

def ofList (rules : List (Rule α)) : Rulebook α := rules.foldl register empty

/-- Takes out the first rule with a name. -/
def unregister (book : Rulebook α) (name : String) : Except SynthesisError (Rule α × Rulebook α) :=
  match book.rules.find? (·.name == name) with
  | some rule => .ok (rule, ⟨book.rules.eraseP (·.name == name)⟩)
  | none => .error (.unknownRule name)

def firstMatch? (book : Rulebook α) (f : Formula α) : Option (Rule α) :=
  book.rules.find? (·.pattern f)

end Rulebook
end FormulaLab
