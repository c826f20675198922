/-! Variables of the environment, held as texts `NAME=value`. The value of a name is what follows the
first of these texts that begins with the name and an equal sign. A value with an equal sign can so
be found under a longer name too: where `B` is `4=7`, the name `B=4` has the value `7`. -/

namespace FormulaLab

/-- Texts `NAME=value`, the earliest first. -/
structure Variables where
  entries : List (List Char)

namespace Variables

def entry (name value : String) : List Char := name.toList ++ '=' :: value.toList

def ofList (pairs : List (String × String)) : Variables := ⟨pairs.map fun (n, v) => entry n v⟩

/-- Value of a name, absent for the empty name. -/
def get? (vars : Variables) (name : String) : Option String :=
  if name = "" then none
  else vars.entries.findSome? fun e => ((entry name "").isPrefixOf? e).map String.ofList

def contains (vars : Variables) (name : String) : Bool := (vars.get? name).isSome

/-- Gives a value to a name without one; a name that has a value keeps it. A value with a NUL
character cannot be held. -/
def complete? (vars : Variables) (name value : String) : Option Variables :=
  if vars.contains name then some vars
  else if '\x00' ∈ value.toList then none
  else some ⟨vars.entries ++ [entry name value]⟩

end Variables
end FormulaLab
