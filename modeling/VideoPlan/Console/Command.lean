import VideoPlan.Catalog.File
import VideoPlan.Console.Loop

/-!
# The commands of the program

`plan` plans one statement and prints the plan, `repl` runs the planning loop. Both start from a catalog
file or from an empty catalog, and report a catalog that cannot be loaded.
-/

namespace VideoPlan.Console

/-- The contents of the catalog file: there is none, it cannot be read, or its text. -/
inductive CatalogSource
  | none
  | unreadable
  | text (json : String)
deriving DecidableEq

/-- The catalog to start from. -/
def CatalogSource.load : CatalogSource → Except Error Catalog
  | .none => .ok .empty
  | .unreadable => .error .io
  | .text json => Catalog.ofJson? json

/-- The outcome of a command: what it writes, and whether it fails. -/
structure Outcome where
  outputs : List Output := []
  failed : Bool := false
deriving DecidableEq

/-- The outcome of a failure. -/
def Outcome.failure (opening : String) (error : Error) : Outcome where
  outputs := [.report (opening ++ error.message ++ "\n")]
  failed := true

/-- Runs a command on the catalog of a source. -/
def withCatalog (source : CatalogSource) (command : Catalog → Outcome) : Outcome :=
  match source.load with
  | .ok catalog => command catalog
  | .error error => .failure "Error loading catalog: " error

/-- Plans one statement. -/
def planCommand (gpuAvailable : Bool) (sql : String) (catalog : Catalog) : Outcome :=
  match ((Session.planSql { gpuAvailable } Catalog.interface sql).answer catalog).1 with
  | .ok planned =>
    { outputs := [.print (planLines planned ++ if planned.useGpu then "udfs on: gpu\n" else "")] }
  | .error error => .failure "Error: " error

/-- Runs the planning loop over these lines. -/
def loopCommand (lines : List String) (catalog : Catalog) : Outcome where
  outputs := greeting :: run {} (.start catalog) (lines.map .line)

end VideoPlan.Console
