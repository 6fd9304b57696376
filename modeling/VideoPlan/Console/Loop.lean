import VideoPlan.Catalog.Store
import VideoPlan.Console.Completion
import VideoPlan.Session

/-!
# The planning loop

Lines are gathered until one ends with a semicolon; then the statements in them are planned and their
plans printed. A failure is reported and the loop goes on. A line that starts with a backslash while
nothing is gathered is a command.
-/

namespace VideoPlan.Console

open Text

/-- What the loop writes. -/
inductive Output
  /-- A text for the standard output. -/
  | print (text : String)
  /-- A text for the standard error. -/
  | report (text : String)
deriving DecidableEq

/-! ## Gathering lines -/

/-- What a line asks for. -/
inductive Request
  /-- Nothing yet. -/
  | nothing
  | command (name : String)
  /-- The gathered lines are complete. -/
  | submit (sql : String)
deriving DecidableEq

/-- What a line asks for behind the gathered ones, and what is gathered then. -/
def gather (gathered line : String) : Request × String :=
  let trimmed := trim line.toList
  let text := String.ofList trimmed
  if trimmed.isEmpty then (.nothing, gathered)
  else if gathered.isEmpty && trimmed.head? = some '\\' then (.command text, gathered)
  else
    let joined := if gathered.isEmpty then text else gathered ++ "\n" ++ text
    if trimmed.getLast? = some ';' then (.submit joined, "") else (.nothing, joined)

/-! ## The state of the loop -/

/-- The state of the loop between two lines. -/
structure State where
  catalog : Catalog := .empty
  gathered : String := ""
  /-- The tables whose columns are offered for completion. -/
  tables : Tables := []

/-- The tables of a catalog. -/
def Tables.ofCatalog (catalog : Catalog) : Tables :=
  (catalog.names.filterMap catalog.find?).foldl
    (fun tables dataset => tables.register dataset.name dataset.columnNames) []

/-- The state with its tables as they are in the catalog. -/
def State.refresh (state : State) : State :=
  { state with tables := .ofCatalog state.catalog }

/-- The state before the first line. -/
def State.start (catalog : Catalog) : State :=
  State.refresh { catalog }

/-! ## Planning -/

/-- What is printed for a plan. -/
def planLines (planned : PlannedStatement) : String :=
  planned.plan.text ++
    (match planned.loader with
      | some loader => "loader: " ++ loader.name ++ "\n"
      | none => "")

/-- The report of a failure. -/
def failure (error : Error) : Output :=
  .report ("Error: " ++ error.message ++ "\n")

/-- Plans statements one after the other. -/
def planAll (host : Host) : Catalog → List Statement → List Output × Catalog
  | catalog, [] => ([], catalog)
  | catalog, statement :: statements =>
    let (answer, catalog) :=
      (Session.planStatement host Catalog.interface statement).answer catalog
    let output := match answer with
      | .ok planned => Output.print (planLines planned)
      | .error error => failure error
    let (outputs, catalog) := planAll host catalog statements
    (output :: outputs, catalog)

/-- Plans the statements of a text. -/
def submit (host : Host) (sql : String) (state : State) : List Output × State :=
  match Script.ofText? sql with
  | .error error => ([failure error], state)
  | .ok statements =>
    let (outputs, catalog) := planAll host state.catalog statements
    (outputs, State.refresh { state with catalog })

/-! ## Commands -/

/-- The help for the loop. -/
def helpText : String :=
  "Enter statements terminated by ';'. Each statement is planned and its plan printed.\n" ++
    "  \\d   list datasets\n" ++
    "  \\h   show this help\n" ++
    "  \\q   quit\n"

/-- A dataset in the list of datasets. -/
def datasetLine (dataset : Dataset) : String :=
  dataset.name ++ (if dataset.isVideo then " (video): " else " (table): ") ++
    commaList dataset.columnNames ++ "\n"

/-- What a command writes; nothing at all if it ends the loop. -/
def runCommand? (catalog : Catalog) (name : String) : Option (List Output) :=
  match name with
  | "\\q" => none
  | "\\h" => some [.print helpText]
  | "\\d" => some ((catalog.names.filterMap catalog.find?).map fun dataset => .print (datasetLine dataset))
  | unknown => some [.report ("Unknown command: " ++ unknown ++ "\n")]

/-! ## The loop -/

/-- What comes in while the loop waits for a line. -/
inductive Input
  | line (text : String)
  /-- The line is broken off. -/
  | interrupt
deriving DecidableEq

/-- What the loop does next. -/
inductive Step
  | goOn (outputs : List Output) (state : State)
  | stop

/-- Handles what comes in. -/
def step (host : Host) (state : State) : Input → Step
  | .interrupt => .goOn [.print "^C\n"] { state with gathered := "" }
  | .line text =>
    match gather state.gathered text with
    | (.nothing, gathered) => .goOn [] { state with gathered }
    | (.command name, gathered) =>
      match runCommand? state.catalog name with
      | some outputs => .goOn outputs { state with gathered }
      | none => .stop
    | (.submit sql, gathered) =>
      let (outputs, state) := submit host sql { state with gathered }
      .goOn outputs state

/-- The greeting of the loop. -/
def greeting : Output :=
  .print "vidql planner. Type \\h for help.\n"

/-- The prompt for the next line. -/
def prompt (state : State) : String :=
  if state.gathered.isEmpty then "vidql> " else "    -> "

/-- What the loop writes for all that comes in. -/
def run (host : Host) (state : State) : List Input → List Output
  | [] => []
  | input :: inputs =>
    match step host state input with
    | .goOn outputs state => outputs ++ run host state inputs
    | .stop => []

end VideoPlan.Console
