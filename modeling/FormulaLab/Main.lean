import FormulaLab.Json.Printer
import FormulaLab.Program

/-! Command line: reads one request from standard input and prints the response. -/

namespace FormulaLab.Program

/-- Names of the variables that settings are read from. -/
def settingNames : List String :=
  ["DFUMT_PRECISION", "DFUMT_MAX_DEPTH", "DFUMT_MAX_REDUCE_STEPS", "DFUMT_POPULATION_LIMIT",
    "DFUMT_MAX_VECTOR_LEN", "DFUMT_TIMEOUT_MS", "DFUMT_MAX_TARGET_DIM", "DFUMT_MAX_TURNS",
    "DFUMT_MAX_GENERATIONS"]

/-- Parts of a variable file that may stand for variables in its substitutions: names that it
assigns to, runs of letters and numbers, and what stands in braces. -/
def possibleNames (text : String) : List String :=
  text.splitToList (fun c => !(c.isAlphanum || c == '_' || c == '.'))
    ++ text.splitToList (!Text.isAlphanumeric ·)
    ++ text.splitToList (fun c => c == '\x7b' || c == '\x7d')

def readVariables (names : List String) : IO Variables :=
  return .ofList (← (names.filter (!·.contains '\x00')).filterMapM fun name =>
    return (← IO.getEnv name).map fun value => (name, value))

/-- The variable file of the working directory, if it can be read. -/
def readVariableFile : IO (Option String) := do
  try return some (← IO.FS.readFile ".env") catch _ => return none

end FormulaLab.Program

open FormulaLab in
def main : IO UInt32 := do
  let file ← Program.readVariableFile
  let environment ← Program.readVariables
    (Program.settingNames ++ (file.map Program.possibleNames).getD [])
  let input ← (← IO.getStdin).readBinToEnd
  let started ← IO.monoMsNow
  match ((Program.run environment file input).run 1).1 with
  | .answered response =>
    IO.println ((response.toJson ((← IO.monoMsNow) - started)).pretty 0)
    return 0
  | .failed message =>
    IO.eprintln ("Error: " ++ message)
    return 1
  | .brokenOff => return 101
