import VideoPlan.Console.Command

/-!
# The program

`plan [--catalog FILE] [--gpu] SQL` prints the plan of a statement, `repl [--catalog FILE]` reads
statements from the standard input. Only reading and writing happens here.
-/

namespace VideoPlan.Program

open Console

/-- What the arguments ask for. -/
structure Arguments where
  catalog : Option String := none
  gpu : Bool := false
  operands : List String := []

/-- Reads the arguments behind the name of the command. -/
def Arguments.read? : List String → Arguments → Option Arguments
  | [], arguments => some arguments
  | "--" :: rest, arguments => some { arguments with operands := arguments.operands ++ rest }
  | "--gpu" :: rest, arguments => read? rest { arguments with gpu := true }
  | "--catalog" :: file :: rest, arguments => read? rest { arguments with catalog := some file }
  | "-c" :: file :: rest, arguments => read? rest { arguments with catalog := some file }
  | operand :: rest, arguments =>
    if operand.startsWith "-" then none
    else read? rest { arguments with operands := arguments.operands ++ [operand] }

/-- Reads the catalog file. -/
def readCatalog : Option String → IO CatalogSource
  | none => return .none
  | some file => do
    try return .text (← IO.FS.readFile file)
    catch _ => return .unreadable

/-- Writes an output where it belongs. -/
def write : Output → IO Unit
  | .print text => do
    let stream ← IO.getStdout
    stream.putStr text
    stream.flush
  | .report text => do
    let stream ← IO.getStderr
    stream.putStr text

/-- Writes an outcome and answers the exit code. -/
def finish (outcome : Outcome) : IO UInt32 := do
  outcome.outputs.forM write
  return if outcome.failed then 1 else 0

/-- Reads lines until the input or the loop ends. -/
partial def loop (state : State) : IO UInt32 := do
  let line ← (← IO.getStdin).getLine
  if line.isEmpty then return 0
  else match step {} state (.line line) with
    | .goOn outputs state =>
      outputs.forM write
      loop state
    | .stop => return 0

/-- How the program is called. -/
def usage : String :=
  "Usage: plan [--catalog FILE] [--gpu] SQL\n       repl [--catalog FILE]\n"

/-- Writes how the program is called. -/
def refuse : IO UInt32 := do
  write (.report usage)
  return 2

/-- Runs the command that the arguments name. -/
def runArguments (args : List String) : IO UInt32 := do
  match args with
  | "plan" :: rest =>
    match Arguments.read? rest {} with
    | some { catalog, gpu, operands := [sql] } =>
      finish (withCatalog (← readCatalog catalog) (planCommand gpu sql))
    | _ => refuse
  | "repl" :: rest =>
    match Arguments.read? rest {} with
    | some { catalog, gpu := false, operands := [] } =>
      match (← readCatalog catalog).load with
      | .ok catalog =>
        write greeting
        loop (.start catalog)
      | .error error => finish (.failure "Error loading catalog: " error)
    | _ => refuse
  | _ => refuse

end VideoPlan.Program

/-- Runs the command line and answers the exit code. -/
def main (args : List String) : IO UInt32 :=
  VideoPlan.Program.runArguments args
