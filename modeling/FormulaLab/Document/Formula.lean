import FormulaLab.Formula.Basic
import FormulaLab.Json.Basic

/-! Formulas as documents. A node is an object; its value, symbol, children and companions are left
out when there are none. Reading also takes an array of the fields in order, and ignores unknown
members. -/

namespace FormulaLab

namespace Companions

def toJson (pair : Companions Float) : Json :=
  .obj [("positive", .ofFloat pair.positive), ("negative", .ofFloat pair.negative)]

def ofJson? : Json → Option (Companions Float)
  | .obj members => do
    let positive ← (← members.lookup "positive").float?
    let negative ← (← members.lookup "negative").float?
    return ⟨positive, negative⟩
  | .arr [positive, negative] => do return ⟨← positive.float?, ← negative.float?⟩
  | _ => none

end Companions

namespace Kind

/-- A kind is its name, or an object with the name as its only member and nothing in it. -/
def ofJson? : Json → Option Kind
  | .str name => ofName? name
  | .obj [(name, .null)] => ofName? name
  | _ => none

end Kind

namespace Formula

/-- Members of a node from the documents of its children. -/
def nodeMembers (f : Formula Float) (children : List Json) : Json.Members :=
  [("id", .str f.id), ("kind", .str f.kind.name)]
    ++ (f.value.map fun v => ("value", Json.ofFloat v)).toList
    ++ (f.symbol.map fun s => ("symbol", Json.str s)).toList
    ++ (if children.isEmpty then [] else [("children", .arr children)])
    ++ (f.companions.map fun pair => ("dual", pair.toJson)).toList

def toJson : Formula Float → Json := fold fun f children => .obj (nodeMembers f children)

/-- A field that may be absent or `null`. -/
def optional? {β : Type} (read? : Json → Option β) : Option Json → Option (Option β)
  | none | some .null => some none
  | some json => (read? json).map some

/-- Fields of a node in order, absent ones as `none`. -/
def nodeFields? : Json → Option (List (Option Json))
  | .obj members =>
    some (["id", "kind", "value", "symbol", "children", "dual"].map (members.lookup ·))
  | .arr items =>
    if items.length ≤ 6 then some (items.map some ++ List.replicate (6 - items.length) none)
    else none
  | _ => none

/-- Formula of a document with at most `budget` nodes on a path. -/
def readWithin? : (budget : Nat) → Json → Option (Formula Float)
  | 0, _ => none
  | budget + 1, json => do
    match ← nodeFields? json with
    | [some id, some kind, value, symbol, children, dual] =>
      let id ← id.text?
      let kind ← Kind.ofJson? kind
      let value ← optional? Json.float? value
      let symbol ← optional? Json.text? symbol
      let companions ← optional? Companions.ofJson? dual
      let children ← match children with
        | none => some []
        | some (.arr items) => items.mapM (readWithin? budget)
        | some _ => none
      return node id ⟨kind, value, symbol, companions⟩ children
    | _ => none

def ofJson? (json : Json) : Option (Formula Float) := readWithin? (json.depth + 1) json

end Formula
end FormulaLab
