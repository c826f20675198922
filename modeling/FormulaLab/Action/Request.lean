import FormulaLab.Action.Arguments
import FormulaLab.Json.Reader

/-! Requests and responses. A request is a name with arguments, written as an object or as an array of
its fields; the arguments may be left out but must be an object. -/

namespace FormulaLab

structure Request where
  name : String
  arguments : Arguments

namespace Request

/-- A request whose arguments are any document; other documents than objects give no arguments. -/
def new (name : String) (arguments : Json) : Request := ⟨name, arguments.members⟩

/-- Arguments written in a source. They stand one container below the request. -/
def readArguments? : Option Json.Source → Option Arguments
  | none => some []
  | some (.obj members) =>
    ((Json.Source.obj members).document? (Json.maxNesting - 1)).map Json.members
  | some _ => none

def read? (text : String) : Option Request := do
  match ← (← Json.Source.read text).record? ["name", "arguments"] with
  | [some name, arguments] => return ⟨← name.text?, ← readArguments? arguments⟩
  | _ => none

/-- Name asked for by a text that is a document but no request, empty if there is none. -/
def nameIn (text : String) : String :=
  (((Json.read? text).bind (·.get? "name")).bind Json.text?).getD ""

end Request

/-- Answer to a request. Data are there exactly on success, an error text exactly on failure. -/
structure Response where
  action : String
  success : Bool
  data : Option Json
  error : Option String
  summary : String

namespace Response

def failure (action : String) (failure : Failure Float) : Response where
  action
  success := false
  data := none
  error := some failure.message
  summary := action ++ " failed"

def ofData (action : String) (data : Json) (summary : String) : Response where
  action
  success := true
  data := some data
  error := none
  summary

end Response
end FormulaLab
