import VideoPlan.Text.Alphabetic
import VideoPlan.Text.Numeric
import VideoPlan.Text.Uppercase
import VideoPlan.Text.Casing
import VideoPlan.Text.Blank
import VideoPlan.Text.Escaped
import VideoPlan.Text.Offset
import VideoPlan.Number.Shortest
import VideoPlan.Catalog.Store
import VideoPlan.Statement.Script
import VideoPlan.Binder.Recording
import VideoPlan.Session
import VideoPlan.Catalog.File
import VideoPlan.Console.Highlight
import VideoPlan.Main
import VideoPlan.Proofs.Conversion.Closure
import VideoPlan.Proofs.Conversion.Availability
import VideoPlan.Proofs.Session.Stability
import VideoPlan.Proofs.Catalog.WellFormed
import VideoPlan.Proofs.Session.Effect
import VideoPlan.Proofs.Expr.Order
import VideoPlan.Proofs.Expr.Spelling
import VideoPlan.Proofs.Conversion.Casing
import VideoPlan.Proofs.Session.Gpu
import VideoPlan.Proofs.Statement.Declared
import VideoPlan.Proofs.Conversion.Shape
import VideoPlan.Proofs.Sql.Recognition
import VideoPlan.Proofs.Statement.Grammar
import VideoPlan.Proofs.Statement.Documented
import VideoPlan.Proofs.Statement.Separation
import VideoPlan.Proofs.Statement.Clauses
import VideoPlan.Proofs.Catalog.TwoSteps
import VideoPlan.Proofs.Insertion.Verdict
import VideoPlan.Proofs.Insertion.Targets
import VideoPlan.Proofs.Expr.Items
import VideoPlan.Proofs.Statement.Creation
import VideoPlan.Proofs.Console.Completion
import VideoPlan.Proofs.Expr.Reading
import VideoPlan.Proofs.Expr.Scopes
import VideoPlan.Proofs.Expr.Filled
import VideoPlan.Proofs.Number.Numeral
import VideoPlan.Proofs.Expr.Integers
import VideoPlan.Proofs.Plan.Outline
import VideoPlan.Proofs.Console.Episodes
import VideoPlan.Proofs.Console.Tables
import VideoPlan.Proofs.Console.Candidates
import VideoPlan.Proofs.Console.Highlight
import VideoPlan.Proofs.Conversion.Wildcard
import VideoPlan.Proofs.Scope.Insertions
