import FormulaLab.Json.Number

/-! From JSON source to documents and records. A document must pair its surrogates, keep its numbers
finite and stay within a nesting limit; a record asks this only of the fields that it declares. -/

namespace FormulaLab.Json

/-- Deepest nesting of containers in a document. -/
def maxNesting : Nat := 127

/-- Text of units in which every escaped surrogate is half of a pair. -/
def textOfUnits? : List TextUnit → Option (List Char)
  | [] => some []
  | .char c :: rest => (textOfUnits? rest).map (c :: ·)
  | .surrogate high :: .surrogate low :: rest =>
    if high < 0xDC00 ∧ 0xDC00 ≤ low then
      (textOfUnits? rest).map
        (Char.ofNat (0x10000 + (high - 0xD800) * 0x400 + (low - 0xDC00)) :: ·)
    else none
  | .surrogate _ :: _ => none

def string? (units : List TextUnit) : Option String := (textOfUnits? units).map String.ofList

namespace Source

mutual

/-- Document of a source with at most `budget` containers around a leaf. -/
def document? : (budget : Nat) → Source → Option Json
  | _, .null => some .null
  | _, .bool b => some (.bool b)
  | _, .number n => n.json?
  | _, .text units => (string? units).map .str
  | 0, .arr _ => none
  | 0, .obj _ => none
  | budget + 1, .arr items => (documents? budget items).map .arr
  | budget + 1, .obj members => (documentMembers? budget members []).map .obj

def documents? : (budget : Nat) → List Source → Option (List Json)
  | _, [] => some []
  | budget, item :: rest => do
    let item ← document? budget item
    let rest ← documents? budget rest
    some (item :: rest)

/-- Members in order; a repeated name keeps its last value. -/
def documentMembers? : (budget : Nat) → List (List TextUnit × Source) → Members → Option Members
  | _, [], members => some members
  | budget, (name, value) :: rest, members => do
    let name ← string? name
    let value ← document? budget value
    documentMembers? budget rest (members.insert name value)

end

/-- Sources of the declared fields of a record, absent ones as `none`. A record is an object with
each declared name at most once, other names being ignored, or an array of its fields in order. -/
def record? (names : List String) : Source → Option (List (Option Source))
  | .obj members => do
    let named ← members.mapM fun (name, value) => (string? name).map fun name => (name, value)
    names.mapM fun name =>
      match named.filter (·.1 == name) with
      | [] => some none
      | [(_, value)] => some (some value)
      | _ => none
  | .arr items =>
    if items.length ≤ names.length then
      some (items.map some ++ List.replicate (names.length - items.length) none)
    else none
  | _ => none

def float? : Source → Option Float
  | .number n => n.json?.bind Json.float?
  | _ => none

def nat? : Source → Option Nat
  | .number n => n.json?.bind Json.nat?
  | _ => none

def text? : Source → Option String
  | .text units => string? units
  | _ => none

end Source

def read? (text : String) : Option Json := (Source.read text).bind (·.document? maxNesting)

end FormulaLab.Json
