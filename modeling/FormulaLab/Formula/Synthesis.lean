import FormulaLab.Formula.Evaluate

/-! Building formulas out of formulas: sums, products, duals, composition by substitution for the
first variable, chains of compositions, and scaling by the half turn or the golden ratio. -/

namespace FormulaLab

inductive SynthesisMode where
  | add
  | mul
  | dual
  | compose
  deriving DecidableEq, Repr

namespace SynthesisMode

def name : SynthesisMode → String
  | add => "add"
  | mul => "mul"
  | dual => "dual"
  | compose => "compose"

/-- Mode with a name in lower case. -/
def ofName? : String → Option SynthesisMode
  | "add" => some add
  | "mul" => some mul
  | "dual" => some dual
  | "compose" => some compose
  | _ => none

end SynthesisMode

/-- Causes for which no formula is synthesised or no rule is removed. -/
inductive SynthesisError where
  | emptyChain
  | unknownMode (name : String)
  | unknownRule (name : String)
  deriving DecidableEq, Repr

namespace SynthesisError

def message : SynthesisError → String
  | emptyChain => "Cannot chain an empty formula list"
  | unknownMode name => "Unknown synthesis mode: " ++ name
  | unknownRule name => "Rule not registered: " ++ name

end SynthesisError

/-- Mode named by a text in any case; the error carries the name in lower case. -/
def SynthesisMode.read (text : String) : Except SynthesisError SynthesisMode :=
  let name := text.map Char.toLower
  match ofName? name with
  | some mode => .ok mode
  | none => .error (.unknownMode name)

namespace Formula

variable {α : Type}

mutual

/-- The tree with its first variable in preorder replaced, absent without a variable. Only the nodes
above that variable are rebuilt. -/
def substituteFirst? (replacement : Formula α) : Formula α → Fresh (Option (Formula α))
  | node id head children =>
    if head.kind = .var then pure (some replacement)
    else do
      match ← substituteFirstAmong? replacement children with
      | some filled => some <$> (node id head children).rebuild filled
      | none => pure none

def substituteFirstAmong? (replacement : Formula α) :
    List (Formula α) → Fresh (Option (List (Formula α)))
  | [] => pure none
  | child :: rest => do
    match ← substituteFirst? replacement child with
    | some child => pure (some (child :: rest))
    | none => return (← substituteFirstAmong? replacement rest).map (child :: ·)

end

/-- `outer` with `inner` for its first variable; without a variable `outer` stays as it is. -/
def compose (inner outer : Formula α) : Fresh (Formula α) :=
  return (← substituteFirst? inner outer).getD outer

/-- Left fold of composition: each formula is substituted into the next one. -/
def chain : List (Formula α) → Except SynthesisError (Fresh (Formula α))
  | [] => .error .emptyChain
  | first :: rest => .ok (rest.foldlM compose first)

variable [Scalar α]

/-- Combination of two formulas. A dual carries the closed values of its parts, an undefined one
counting as zero. -/
def combine (mode : SynthesisMode) (a b : Formula α) : Fresh (Formula α) :=
  match mode with
  | .add => binary "+" a b
  | .mul => binary "*" a b
  | .dual => dual a b ⟨a.closedValue.getD 0, b.closedValue.getD 0⟩
  | .compose => compose a b

def halfTurnScaled (f : Formula α) : Fresh (Formula α) := do
  binary "*" f (← labeledConstant Scalar.halfTurn "π")

/-- The formula times the golden ratio, once per turn. -/
def goldenScaled : (turns : Nat) → Formula α → Fresh (Formula α)
  | 0, f => pure f
  | turns + 1, f => do goldenScaled turns (← binary "*" f (← labeledConstant Scalar.golden "φ"))

end Formula
end FormulaLab
