import VideoPlan.Expr
import VideoPlan.Catalog.Dataset
import VideoPlan.Plan.FileName
import VideoPlan.Statement

/-!
# Plans

A plan is a tree of operators. Each operator works on the rows of its children, and a plan for a query is
a chain from its outermost operator down to the table. `Plan.text` writes a plan with one line for each
operator, the children below it and two blanks further in.
-/

namespace VideoPlan

/-- The kinds of operators. -/
inductive OperatorKind
  | get
  | filter
  | project
  | insert
  | createTable
  | createUdf
  | loadData
deriving DecidableEq

/-- The name of a kind. -/
def OperatorKind.name : OperatorKind → String
  | .get => "Get"
  | .filter => "Filter"
  | .project => "Project"
  | .insert => "Insert"
  | .createTable => "CreateTable"
  | .createUdf => "CreateUdf"
  | .loadData => "LoadData"

/-- A user-defined function to be created. -/
structure UdfCreation where
  name : String
  ifNotExists : Bool := false
  inputs : List UdfParameter := []
  outputs : List UdfParameter := []
  implementation : String
  udfType : Option String := none
deriving DecidableEq

/-- An operator. -/
inductive Operator
  /-- Reads the rows of a dataset. -/
  | get (table : TableRef) (dataset : Dataset)
  | filter (predicate : Expr)
  | project (targets : List Expr)
  /-- Adds rows, each with one value for each of the columns. -/
  | insert (table : TableRef) (datasetId : Nat) (columns : List Column) (rows : List (List Expr))
  | createTable (table : TableRef) (columns : List Column) (ifNotExists : Bool)
  | createUdf (creation : UdfCreation)
  /-- Loads a file into a dataset. -/
  | loadData (dataset : Dataset) (path : String)

namespace Operator

/-- The kind of an operator. -/
def kind : Operator → OperatorKind
  | .get _ _ => .get
  | .filter _ => .filter
  | .project _ => .project
  | .insert _ _ _ _ => .insert
  | .createTable _ _ _ => .createTable
  | .createUdf _ => .createUdf
  | .loadData _ _ => .loadData

/-- Whether a filter or a projection calls a function. -/
def callsFunction : Operator → Bool
  | .filter predicate => predicate.callsFunction
  | .project targets => Expr.anyCallsFunction targets
  | _ => false

/-- The name of the loader for a file: tables of text have their own, all else is a video. -/
def loaderName (path : String) : String :=
  if hasExtension path "csv" then "csv" else "video"

/-- A text in parentheses. -/
def inParens (text : String) : String :=
  "(" ++ text ++ ")"

/-- The words of a declaration that may find its object in place. -/
def missingText (ifNotExists : Bool) : String :=
  if ifNotExists then " IF NOT EXISTS" else ""

/-- What a function to be created is, on one line. -/
def udfText (creation : UdfCreation) : String :=
  creation.name ++ " input=" ++ inParens (commaList (creation.inputs.map UdfParameter.declared)) ++
    " output=" ++ inParens (commaList (creation.outputs.map UdfParameter.declared)) ++
    " impl=" ++ creation.implementation

/-- The lines of an operator: the first names it, a second one the type of a function. -/
def lines : Operator → List String
  | .get table dataset => ["Get: " ++ table.text ++ " [" ++ commaList dataset.columnNames ++ "]"]
  | .filter predicate => ["Filter: " ++ predicate.text]
  | .project targets => ["Project: [" ++ commaList (Expr.texts targets) ++ "]"]
  | .insert table _ columns rows =>
    ["Insert: " ++ table.text ++ " " ++ inParens (commaList (columns.map (·.name))) ++ " " ++
      toString rows.length ++ " rows"]
  | .createTable table columns ifNotExists =>
    ["CreateTable" ++ missingText ifNotExists ++ ": " ++ table.text ++ " " ++
      inParens (commaList (columns.map Column.declared))]
  | .createUdf creation =>
    ("CreateUdf" ++ missingText creation.ifNotExists ++ ": " ++ udfText creation) ::
      (creation.udfType.map ("  type: " ++ ·)).toList
  | .loadData dataset path =>
    ["LoadData: " ++ dataset.label ++ " <- " ++ path ++ " " ++ inParens (loaderName path)]

end Operator

/-- A tree of operators. -/
inductive Plan
  | node (operator : Operator) (children : List Plan)

namespace Plan

/-- The plan of one operator. -/
def leaf (operator : Operator) : Plan :=
  .node operator []

/-- The outermost operator. -/
def operator : Plan → Operator
  | .node operator _ => operator

/-- The plans below the outermost operator. -/
def children : Plan → List Plan
  | .node _ children => children

mutual

/-- Whether a filter or a projection anywhere in the plan calls a function. -/
def invokesFunction : Plan → Bool
  | .node operator children => operator.callsFunction || anyInvokesFunction children

/-- Whether one of the plans calls a function. -/
def anyInvokesFunction : List Plan → Bool
  | [] => false
  | plan :: plans => plan.invokesFunction || anyInvokesFunction plans

end

mutual

/-- The kinds of operators from the outermost down, through the first child of each. -/
def chain : Plan → List OperatorKind
  | .node operator children => operator.kind :: firstChain children

/-- The chain of the first of the plans. -/
def firstChain : List Plan → List OperatorKind
  | [] => []
  | plan :: _ => plan.chain

end

/-- A line `depth` levels below the outermost operator. -/
def indented (depth : Nat) (line : String) : String :=
  String.join (List.replicate depth "  ") ++ line

mutual

/-- The lines of a plan that lies `depth` levels below the outermost operator. -/
def lines (depth : Nat) : Plan → List String
  | .node operator children =>
    operator.lines.map (indented depth) ++ linesOfAll (depth + 1) children

/-- The lines of plans at the same depth. -/
def linesOfAll (depth : Nat) : List Plan → List String
  | [] => []
  | plan :: plans => plan.lines depth ++ linesOfAll depth plans

end

/-- A plan as text, every line with its end. -/
def text (plan : Plan) : String :=
  String.join ((plan.lines 0).map (· ++ "\n"))

end Plan

end VideoPlan
