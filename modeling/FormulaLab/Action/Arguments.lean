import FormulaLab.Engine.State
import FormulaLab.Json.Basic

/-! Reading of request arguments. Only JSON numbers count as numeric; whatever does not fit gives way
to a default. -/

namespace FormulaLab

abbrev Arguments := Json.Members

namespace Arguments

def finite? (json : Json) : Option Float := json.float?.filter Float.isFinite

def number (arguments : Arguments) (name : String) (standard : Float) : Float :=
  ((arguments.get? name).bind finite?).getD standard

/-- Number under a name rounded to a count of at least one. The default is rounded, too. -/
def count (arguments : Arguments) (name : String) (standard : Nat) : Nat :=
  max 1 (Scalar.roundNat (arguments.number name (Scalar.ofNat standard)))

def boundedCount (arguments : Arguments) (name : String) (standard limit : Nat) :
    Except RequestError Nat :=
  let value := arguments.count name standard
  if limit < value then
    .error (.invalidArgument name s!"must be at most {limit}, got {value}")
  else .ok value

/-- Array under a name cut off at a length, its elements that are not finite numbers being zero. -/
def vector (arguments : Arguments) (name : String) (maxLength : Nat) : List Float :=
  match arguments.get? name with
  | some (.arr items) => (items.take maxLength).map fun item => (finite? item).getD 0
  | _ => []

def text (arguments : Arguments) (name standard : String) : String :=
  ((arguments.get? name).bind Json.text?).getD standard

/-- Whether something other than `null` is given. -/
def isPresent (arguments : Arguments) (name : String) : Bool :=
  (arguments.get? name).any (!·.isNull)

end Arguments
end FormulaLab
