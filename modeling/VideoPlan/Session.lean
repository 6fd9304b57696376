import VideoPlan.Conversion
import VideoPlan.Registry
import VideoPlan.Statement.Script

/-!
# Planning sessions

A session plans one statement after the other against the same catalog, with what the host offers: its
loaders, and whether functions can run on a graphics processor.
-/

namespace VideoPlan

/-- What the host offers. -/
structure Host where
  gpuAvailable : Bool := false
  loaders : Registry Loader := .loaders

/-- A plan with what running it needs. -/
structure PlannedStatement where
  plan : Plan
  /-- What reads the file, if one is loaded. -/
  loader : Option Loader
  useGpu : Bool

namespace Session

/-- Converts a statement to a plan. -/
def convert (catalog : CatalogInterface σ) (statement : Statement) : Action σ (Option Plan) :=
  ExceptT.mk fun state =>
    let (answer, converting) := (Converting.visit (.ofCatalog catalog) statement).answer { state }
    (answer.map fun _ => converting.conversion.plan, converting.state)

/-- The loader that a plan needs. -/
def loaderFor (host : Host) (plan : Plan) : Except Error (Option Loader) :=
  match plan.operator with
  | .loadData _ path => some <$> host.loaders.create (Operator.loaderName path)
  | _ => .ok none

/-- Plans a statement. -/
def planStatement (host : Host) (catalog : CatalogInterface σ) (statement : Statement) :
    Action σ PlannedStatement := do
  match ← convert catalog statement with
  | none => throw (.noPlan statement.kind)
  | some plan =>
    let loader ← Action.ofExcept (loaderFor host plan)
    return { plan, loader, useGpu := host.gpuAvailable && plan.invokesFunction }

/-- Plans the only statement of a text. -/
def planSql (host : Host) (catalog : CatalogInterface σ) (sql : String) :
    Action σ PlannedStatement := do
  planStatement host catalog (← Action.ofExcept (Statement.ofText? sql))

end Session

end VideoPlan
