import FormulaLab.Json.Basic
import FormulaLab.Decimal.Text

/-! JSON documents as text, on one line or indented by two blanks. -/

namespace FormulaLab.Json

def hexText (n : Nat) : List Char :=
  let digits := Nat.toDigits 16 n
  List.replicate (4 - digits.length) '0' ++ digits

/-- Quotes, backslashes and control characters are escaped, all other characters stand as they are. -/
def escape (c : Char) : List Char :=
  match c with
  | '"' => ['\\', '"']
  | '\\' => ['\\', '\\']
  | '\n' => ['\\', 'n']
  | '\r' => ['\\', 'r']
  | '\t' => ['\\', 't']
  | '\x08' => ['\\', 'b']
  | '\x0c' => ['\\', 'f']
  | c => if c.toNat < 0x20 then '\\' :: 'u' :: hexText c.toNat else [c]

def quote (text : String) : String :=
  "\"" ++ String.ofList (text.toList.flatMap escape) ++ "\""

def floatText (x : Float) : String :=
  (Binary64.ofFloat x).withSign fun m e => Decimal.document.write (Decimal.shortest m e)

mutual

def compact : Json → String
  | .null => "null"
  | .bool b => if b then "true" else "false"
  | .int n => toString n
  | .float x => if x.isFinite then floatText x else "null"
  | .str s => quote s
  | .arr items => "[" ++ ",".intercalate (compactItems items) ++ "]"
  | .obj members => "\x7b" ++ ",".intercalate (compactMembers members) ++ "\x7d"

def compactItems : List Json → List String
  | [] => []
  | item :: rest => item.compact :: compactItems rest

def compactMembers : List (String × Json) → List String
  | [] => []
  | (name, value) :: rest => (quote name ++ ":" ++ value.compact) :: compactMembers rest

end

/-- A container over several lines, its parts indented one step further than its brackets. -/
def block (opening closing : String) (indent : Nat) (parts : List String) : String :=
  let line (depth : Nat) := "\n" ++ String.ofList (List.replicate (2 * depth) ' ')
  if parts.isEmpty then opening ++ closing
  else
    opening ++ line (indent + 1) ++ ("," ++ line (indent + 1)).intercalate parts ++ line indent
      ++ closing

mutual

def pretty (indent : Nat) : Json → String
  | .null => "null"
  | .bool b => if b then "true" else "false"
  | .int n => toString n
  | .float x => if x.isFinite then floatText x else "null"
  | .str s => quote s
  | .arr items => block "[" "]" indent (prettyItems (indent + 1) items)
  | .obj members => block "\x7b" "\x7d" indent (prettyMembers (indent + 1) members)

def prettyItems (indent : Nat) : List Json → List String
  | [] => []
  | item :: rest => item.pretty indent :: prettyItems indent rest

def prettyMembers (indent : Nat) : List (String × Json) → List String
  | [] => []
  | (name, value) :: rest => (quote name ++ ": " ++ value.pretty indent) :: prettyMembers indent rest

end

end FormulaLab.Json
