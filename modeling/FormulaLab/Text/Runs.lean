/-! Sets of characters as runs of code points. A set is given by the code points at which its runs
begin and end in turn, in ascending order. -/

namespace FormulaLab.Text

/-- Whether the last bound at or below the character begins a run. -/
def inRuns (bounds : List Nat) (c : Char) : Bool :=
  (bounds.takeWhile (· ≤ c.toNat)).length % 2 == 1

end FormulaLab.Text
