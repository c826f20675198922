/-! JSON text read by its grammar alone. The result keeps numbers as written and escaped surrogates
unpaired, so that a reader decides later which parts it needs and which limits apply to them: a part
that nobody asks for is only required to follow the grammar. -/

namespace FormulaLab.Json

/-- A number as written: its sign, the digits before and after the point, and the exponent. -/
structure NumberSource where
  negative : Bool
  whole : List Nat
  fraction : Option (List Nat)
  exponent : Option (Bool × List Nat)

/-- One unit of a text: a character or an escaped surrogate. -/
inductive TextUnit where
  | char (c : Char)
  | surrogate (code : Nat)

inductive Source where
  | null
  | bool (value : Bool)
  | number (value : NumberSource)
  | text (units : List TextUnit)
  | arr (items : List Source)
  | obj (members : List (List TextUnit × Source))

namespace Source

def isBlank (c : Char) : Bool := c == ' ' || c == '\n' || c == '\t' || c == '\r'

def skipBlanks (input : List Char) : List Char := input.dropWhile isBlank

def digit? (c : Char) : Option Nat :=
  if '0' ≤ c ∧ c ≤ '9' then some (c.toNat - '0'.toNat) else none

def hexDigit? (c : Char) : Option Nat :=
  if '0' ≤ c ∧ c ≤ '9' then some (c.toNat - '0'.toNat)
  else if 'a' ≤ c ∧ c ≤ 'f' then some (c.toNat - 'a'.toNat + 10)
  else if 'A' ≤ c ∧ c ≤ 'F' then some (c.toNat - 'A'.toNat + 10)
  else none

/-- Leading digits and the rest. -/
def digits : List Char → List Nat × List Char
  | [] => ([], [])
  | c :: rest =>
    match digit? c with
    | some d => let (ds, rest) := digits rest; (d :: ds, rest)
    | none => ([], c :: rest)

def someDigits (input : List Char) : Option (List Nat × List Char) :=
  match digits input with
  | ([], _) => none
  | found => some found

def fractionPart : List Char → Option (Option (List Nat) × List Char)
  | '.' :: rest => (someDigits rest).map fun (ds, rest) => (some ds, rest)
  | input => some (none, input)

def exponentPart : List Char → Option (Option (Bool × List Nat) × List Char)
  | c :: rest =>
    if c = 'e' ∨ c = 'E' then
      let (negative, rest) := match rest with
        | '-' :: rest => (true, rest)
        | '+' :: rest => (false, rest)
        | rest => (false, rest)
      (someDigits rest).map fun (ds, rest) => (some (negative, ds), rest)
    else some (none, c :: rest)
  | [] => some (none, [])

/-- Digits of a number; a leading zero stands alone. -/
def unsigned (negative : Bool) (input : List Char) : Option (NumberSource × List Char) := do
  let (whole, rest) ← someDigits input
  if whole.head? = some 0 ∧ whole.length ≠ 1 then none
  else
    let (fraction, rest) ← fractionPart rest
    let (exponent, rest) ← exponentPart rest
    some (⟨negative, whole, fraction, exponent⟩, rest)

def numberPart : List Char → Option (NumberSource × List Char)
  | '-' :: rest => unsigned true rest
  | input => unsigned false input

def hexUnit (a b c d : Char) : Option TextUnit := do
  let code := ((← hexDigit? a) * 16 + (← hexDigit? b)) * 256 + (← hexDigit? c) * 16 + (← hexDigit? d)
  if 0xD800 ≤ code ∧ code < 0xE000 then some (.surrogate code) else some (.char (Char.ofNat code))

def simpleEscape? : Char → Option Char
  | '"' => some '"'
  | '\\' => some '\\'
  | '/' => some '/'
  | 'b' => some '\x08'
  | 'f' => some '\x0c'
  | 'n' => some '\n'
  | 'r' => some '\r'
  | 't' => some '\t'
  | _ => none

/-- Units up to the closing quote; control characters must be escaped. -/
def textPart : List Char → Option (List TextUnit × List Char)
  | [] => none
  | '"' :: rest => some ([], rest)
  | '\\' :: 'u' :: a :: b :: c :: d :: rest => do
    let unit ← hexUnit a b c d
    let (units, rest) ← textPart rest
    some (unit :: units, rest)
  | '\\' :: e :: rest => do
    let c ← simpleEscape? e
    let (units, rest) ← textPart rest
    some (.char c :: units, rest)
  | c :: rest =>
    if c = '\\' ∨ c.toNat < 0x20 then none
    else do
      let (units, rest) ← textPart rest
      some (.char c :: units, rest)

mutual

/-- One value. Each call takes one from the fuel, and twice the length of the input is enough. -/
def value : (fuel : Nat) → List Char → Option (Source × List Char)
  | 0, _ => none
  | fuel + 1, input =>
    match skipBlanks input with
    | 'n' :: 'u' :: 'l' :: 'l' :: rest => some (.null, rest)
    | 't' :: 'r' :: 'u' :: 'e' :: rest => some (.bool true, rest)
    | 'f' :: 'a' :: 'l' :: 's' :: 'e' :: rest => some (.bool false, rest)
    | '"' :: rest => (textPart rest).map fun (units, rest) => (.text units, rest)
    | '[' :: rest =>
      match skipBlanks rest with
      | ']' :: rest => some (.arr [], rest)
      | rest => (itemsPart fuel rest).map fun (items, rest) => (.arr items, rest)
    | '{' :: rest =>
      match skipBlanks rest with
      | '}' :: rest => some (.obj [], rest)
      | rest => (membersPart fuel rest).map fun (members, rest) => (.obj members, rest)
    | rest => (numberPart rest).map fun (found, rest) => (.number found, rest)

/-- One or more items up to the closing bracket. -/
def itemsPart : (fuel : Nat) → List Char → Option (List Source × List Char)
  | 0, _ => none
  | fuel + 1, input => do
    let (item, rest) ← value fuel input
    match skipBlanks rest with
    | ',' :: rest =>
      let (items, rest) ← itemsPart fuel rest
      some (item :: items, rest)
    | ']' :: rest => some ([item], rest)
    | _ => none

/-- One or more members up to the closing brace. -/
def membersPart : (fuel : Nat) → List Char → Option (List (List TextUnit × Source) × List Char)
  | 0, _ => none
  | fuel + 1, input =>
    match skipBlanks input with
    | '"' :: rest => do
      let (name, rest) ← textPart rest
      match skipBlanks rest with
      | ':' :: rest =>
        let (member, rest) ← value fuel rest
        match skipBlanks rest with
        | ',' :: rest =>
          let (members, rest) ← membersPart fuel rest
          some ((name, member) :: members, rest)
        | '}' :: rest => some ([(name, member)], rest)
        | _ => none
      | _ => none
    | _ => none

end

/-- The whole text is one value with blanks around it. -/
def read (text : String) : Option Source :=
  let input := text.toList
  match value (2 * input.length + 2) input with
  | some (source, rest) => if skipBlanks rest = [] then some source else none
  | none => none

end Source
end FormulaLab.Json
