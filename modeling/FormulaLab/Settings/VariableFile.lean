import FormulaLab.Settings.Variables
import FormulaLab.Text.Alphanumeric

/-! Files of variable assignments, one `NAME=value` per line.

A line may start with `export`, a hash sign after a blank starts a comment, single quotes keep a text
as it is, double quotes keep blanks, a backslash escapes a few characters, `$NAME` and `${NAME}` stand
for values known so far, and quotes may span lines. The first line that breaks these rules ends the
reading; what stands before it counts. -/

namespace FormulaLab.VariableFile

/-- Where a scan of a line stands with respect to quotes, escapes and comments. -/
inductive ScanState where
  | plain
  | blank
  | escape
  | weak
  | weakEscape
  | strong
  | strongEscape
  | comment
  deriving DecidableEq, Repr

def isBlank (c : Char) : Bool :=
  let n := c.toNat
  (0x09 ≤ n && n ≤ 0x0d) || n == 0x20 || n == 0x85 || n == 0xa0 || n == 0x1680
    || (0x2000 ≤ n && n ≤ 0x200a) || n == 0x2028 || n == 0x2029 || n == 0x202f || n == 0x205f
    || n == 0x3000

/-- State behind an opening character outside of quotes. -/
def opened (c : Char) : ScanState :=
  match c with
  | '\\' => .escape
  | '"' => .weak
  | '\'' => .strong
  | _ => .plain

def scanStep (state : ScanState) (c : Char) : ScanState :=
  match state with
  | .plain => if isBlank c && c != '\n' && c != '\r' then .blank else opened c
  | .blank => if c = '#' then .comment else opened c
  | .escape => .plain
  | .weak => if c = '\\' then .weakEscape else if c = '"' then .plain else .weak
  | .weakEscape => .weak
  | .strong => if c = '\\' then .strongEscape else if c = '\'' then .plain else .strong
  | .strongEscape => .strong
  | .comment => .comment

/-- The part of a line before a comment, and the state behind the line. -/
def scan (state : ScanState) (line : List Char) : List Char × ScanState :=
  let (kept, last) := line.foldl
    (fun (kept, state) c =>
      match scanStep state c with
      | .comment => (kept, .comment)
      | next => (c :: kept, next))
    ([], state)
  (kept.reverse, last)

/-- Puts a character in front of lines. A line end closes the line that it begins. -/
def consLine (c : Char) (lines : List (List Char)) : List (List Char) :=
  match lines with
  | line :: rest => if c = '\n' then [c] :: lines else (c :: line) :: rest
  | [] => [[c]]

/-- Lines with their line ends. -/
def physicalLines (text : List Char) : List (List Char) := text.foldr consLine []

def dropLineEnd (line : List Char) : List Char :=
  match line.reverse with
  | '\n' :: '\r' :: rest | '\n' :: rest => rest.reverse
  | _ => line

/-- Joins the lines that an open quote or escape connects; `none` stands for an unfinished one. -/
def logicalLines : (buffer : List Char) → ScanState → List (List Char) → List (Option (List Char))
  | _, state, [] => if state = .plain then [] else [none]
  | buffer, state, line :: rest =>
    let joined := buffer ++ line
    if (joined.dropWhile isBlank).head? = some '#' then some [] :: logicalLines [] .plain rest
    else
      match scan state line with
      | (kept, .comment) => some (buffer ++ kept) :: logicalLines [] .plain rest
      | (_, .plain) => some (dropLineEnd joined) :: logicalLines [] .plain rest
      | (_, unfinished) => logicalLines joined unfinished rest

inductive Substitution where
  | none
  | bare
  | braced
  deriving DecidableEq, Repr

/-- A value on the way. The gathered name and the output hold their latest character first. -/
structure ValueState where
  strong : Bool := false
  weak : Bool := false
  escaped : Bool := false
  ending : Bool := false
  substitution : Substitution := .none
  name : List Char := []
  output : List Char := []

namespace ValueState

def push (s : ValueState) (c : Char) : ValueState := { s with output := c :: s.output }

/-- Appends the value of the gathered name, nothing for an unknown one. -/
def substitute (known : Variables) (s : ValueState) : ValueState :=
  let value := (known.get? (String.ofList s.name.reverse)).getD ""
  { s with output := value.toList.reverse ++ s.output, name := [], substitution := .none }

def stepEscaped (s : ValueState) (c : Char) : Option ValueState :=
  let s := { s with escaped := false }
  if c ∈ ['\\', '\'', '"', '$', ' '] then some (s.push c)
  else if c = 'n' then some (s.push '\n')
  else none

/-- A name in a substitution is a run of letters and numbers of any script; in braces it may hold
anything but the closing brace. -/
def stepSubstitution (known : Variables) (s : ValueState) (c : Char) : ValueState :=
  if Text.isAlphanumeric c then { s with name := c :: s.name }
  else if s.substitution = .bare then
    if c = '\x7b' ∧ s.name = [] then { s with substitution := .braced }
    else
      let s := s.substitute known
      if c = '$' then { s with substitution := .bare } else s.push c
  else if c = '\x7d' then s.substitute known
  else { s with name := c :: s.name }

def stepPlain (s : ValueState) (c : Char) : ValueState :=
  if c = '$' then { s with substitution := .bare }
  else if s.weak then
    if c = '"' then { s with weak := false }
    else if c = '\\' then { s with escaped := true }
    else s.push c
  else if c = '\'' then { s with strong := true }
  else if c = '"' then { s with weak := true }
  else if c = '\\' then { s with escaped := true }
  else if c = ' ' ∨ c = '\t' then { s with ending := true }
  else s.push c

def step (known : Variables) (s : ValueState) (c : Char) : Option ValueState :=
  if s.escaped then s.stepEscaped c
  else if s.strong then some (if c = '\'' then { s with strong := false } else s.push c)
  else if s.substitution ≠ .none then some (s.stepSubstitution known c)
  else some (s.stepPlain c)

/-- Value of the rest of a line. Behind it only blanks and a comment may follow. -/
def read? (known : Variables) : ValueState → List Char → Option (List Char)
  | s, [] =>
    if s.substitution = .braced ∨ s.strong ∨ s.weak then none
    else some (s.substitute known).output.reverse
  | s, c :: rest =>
    if s.ending then
      if c = ' ' ∨ c = '\t' then read? known s rest
      else if c = '#' then read? known s []
      else none
    else do read? known (← s.step known c) rest

end ValueState

def readName? (line : List Char) : Option (String × List Char) :=
  let isNameChar (c : Char) : Bool := c.isAlphanum || c == '_' || c == '.'
  match line with
  | c :: _ =>
    if c.isAlpha ∨ c = '_' then
      some (String.ofList (line.takeWhile isNameChar), (line.dropWhile isNameChar).dropWhile isBlank)
    else none
  | [] => none

def readEqualSign? : List Char → Option (List Char)
  | '=' :: rest => some (rest.dropWhile isBlank)
  | _ => none

/-- Name and rest of an assignment; `export` may stand before the name or be the name itself. -/
def readTarget? (line : List Char) : Option (String × List Char) := do
  let (name, rest) ← readName? line
  match readEqualSign? rest with
  | some value => some (name, value)
  | none =>
    if name = "export" then
      let (name, rest) ← readName? rest
      some (name, ← readEqualSign? rest)
    else none

/-- Assignment of a line, `some none` for a line without one and `none` for a broken line. -/
def readLine? (known : Variables) (line : List Char) : Option (Option (String × String)) :=
  let line := ((line.reverse.dropWhile isBlank).reverse).dropWhile isBlank
  if line = [] ∨ line.head? = some '#' then some none
  else do
    let (name, value) ← readTarget? line
    if value = [] ∨ value.head? = some '#' then some (some (name, ""))
    else some (some (name, String.ofList (← ValueState.read? known {} value)))

/-- Completes variables by the assignments of lines; absent when one of the values cannot be held. -/
def assign : List (Option (List Char)) → Variables → Option Variables
  | some line :: rest, known =>
    match readLine? known line with
    | none => some known
    | some none => assign rest known
    | some (some (name, value)) => (known.complete? name value).bind (assign rest ·)
  | _, known => some known

/-- Variables completed by the assignments of a file. -/
def load (text : String) (known : Variables) : Option Variables :=
  let input := match text.toList with
    | '\ufeff' :: rest => rest
    | rest => rest
  assign (logicalLines [] .plain (physicalLines input)) known

end FormulaLab.VariableFile
