import VideoPlan.Sql.Lexer
import VideoPlan.Sql.Reader.Statement
import VideoPlan.Statement.Declaration
import VideoPlan.Statement.OfSql

/-!
# Reading statements from text

A script is statements with semicolons between them. The whole text is cut into tokens first; then the
statements are read one after the other, up to the first that fails.
-/

namespace VideoPlan

open Sql (Token)

/-- Reads the statement that the tokens start with, and answers the tokens behind it. What is no
declaration is read by `plain`. -/
def Statement.ofTokens? (plain : Sql.Reader Sql.Statement) (tokens : List Token) :
    Except Error (Statement × List Token) :=
  match Declaration.opening? tokens with
  | some (reader, rest) => (reader rest).mapError .parse
  | none =>
    match plain tokens with
    | .error fault => .error (.parse fault)
    | .ok (statement, rest) => (·, rest) <$> Statement.ofSql? statement

/-- Reads statements with semicolons between them. -/
def Script.ofTokens? (plain : Sql.Reader Sql.Statement) (tokens : List Token) :
    Except Error (List Statement) :=
  match tokens with
  | [] => .ok []
  | .semicolon :: rest => Script.ofTokens? plain rest
  | token :: more =>
    match Statement.ofTokens? plain (token :: more) with
    | .error error => .error error
    | .ok (statement, []) => .ok [statement]
    | .ok (statement, .semicolon :: rest) =>
      if _h : rest.length ≤ more.length then (statement :: ·) <$> Script.ofTokens? plain rest
      else .error (.parse .refused)
    | .ok (_, next :: _) => .error (.parse (.unexpected "end of statement" next.shown))
termination_by tokens.length

/-- The statements of a text. -/
def Script.ofText? (sql : String) : Except Error (List Statement) :=
  match Token.scan? sql with
  | some tokens => Script.ofTokens? Sql.Reader.wholeStatement tokens
  | none => .error (.parse .refused)

/-- The only statement of a text. -/
def Statement.ofText? (sql : String) : Except Error Statement := do
  match ← Script.ofText? sql with
  | [] => throw (.parse .noStatement)
  | [statement] => return statement
  | _ => throw (.parse .severalStatements)

end VideoPlan
