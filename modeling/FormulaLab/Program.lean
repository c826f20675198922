import FormulaLab.Action.Dispatcher
import FormulaLab.Settings.Environment
import FormulaLab.Settings.VariableFile

/-! The program: settings from the environment, one request from the input, one response. -/

namespace FormulaLab

/-- What a run of the program comes to. It breaks off when a variable cannot be set. -/
inductive ProgramOutcome where
  | answered (response : Response)
  | failed (message : String)
  | brokenOff

namespace Response

/-- Document of a response that took some time. The error is left out on success. -/
def toJson (response : Response) (elapsedMs : Nat) : Json := .obj (
  [("action", .str response.action), ("success", .bool response.success),
    ("data", response.data.getD .null)]
    ++ (response.error.map fun error => ("error", Json.str error)).toList
    ++ [("executionMs", .ofNat elapsedMs), ("summary", .str response.summary)])

end Response

namespace Program

/-- Variables of an environment and of the variable file of the working directory, if there is one. -/
def variables? (environment : Variables) (file : Option String) : Option Variables :=
  match file with
  | some text => VariableFile.load text environment
  | none => some environment

def engine (vars : Variables) : Except (Failure Float) (Engine Float) := do
  Engine.new (← (Settings.load vars).mapError .settings)

def run (environment : Variables) (file : Option String) (input : ByteArray) :
    Fresh ProgramOutcome := do
  match (variables? environment file).map engine with
  | none => return .brokenOff
  | some (.error e) => return .failed e.message
  | some (.ok engine) =>
    match String.fromUTF8? input with
    | none => return .failed "Failed to read request from stdin"
    | some text =>
      let (response, _) ← (Dispatcher.new engine (some .zero)).answerText text
      return .answered response

end Program
end FormulaLab
