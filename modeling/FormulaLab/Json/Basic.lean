/-! JSON documents. Whole numbers of machine size stay whole, every other number is a binary64 value,
and the members of an object have distinct names. -/

namespace FormulaLab

inductive Json where
  | null
  | bool (value : Bool)
  | int (value : Int)
  | float (value : Float)
  | str (text : String)
  | arr (items : List Json)
  | obj (members : List (String × Json))
  deriving Inhabited

namespace Json

/-- Members of an object in order of first appearance. -/
abbrev Members := List (String × Json)

def Members.get? (members : Members) (name : String) : Option Json := members.lookup name

/-- The last value given to a name replaces an earlier one. -/
def Members.insert : Members → String → Json → Members
  | [], name, value => [(name, value)]
  | (other, old) :: rest, name, value =>
    if other = name then (name, value) :: rest else (other, old) :: insert rest name value

def members : Json → Members
  | .obj members => members
  | _ => []

def get? (json : Json) (name : String) : Option Json := json.members.get? name

/-- A number that is not finite has no JSON form and becomes `null`. -/
def ofFloat (x : Float) : Json := if x.isFinite then .float x else .null

def ofNat (n : Nat) : Json := .int n

def ofOption (encode : β → Json) : Option β → Json
  | some x => encode x
  | none => .null

/-- Numeric value of a JSON number of either kind. -/
def float? : Json → Option Float
  | .int n => some (Float.ofInt n)
  | .float x => some x
  | _ => none

def nat? : Json → Option Nat
  | .int (.ofNat n) => some n
  | _ => none

def text? : Json → Option String
  | .str s => some s
  | _ => none

def isNull : Json → Bool
  | .null => true
  | _ => false

mutual

/-- Greatest number of containers around a leaf. -/
def depth : Json → Nat
  | .arr items => depthOfItems items + 1
  | .obj members => depthOfMembers members + 1
  | _ => 0

def depthOfItems : List Json → Nat
  | [] => 0
  | item :: rest => max item.depth (depthOfItems rest)

def depthOfMembers : List (String × Json) → Nat
  | [] => 0
  | (_, value) :: rest => max value.depth (depthOfMembers rest)

end

end Json
end FormulaLab
