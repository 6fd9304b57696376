import VideoPlan.Console.Completion
import VideoPlan.Proofs.Console.Pieces

/-!
# Colouring lines

Each piece of a line is written either as it is or between a code that sets a colour and one that ends it.
-/

namespace VideoPlan.Console

open Text

/-- The code that ends a colour. -/
def resetCode : String := "\x1b[0m"

/-- The codes of colours. -/
inductive Colour
  | boldBlue
  | boldCyan
  | cyan
  | green
  | magenta
  | yellow
deriving DecidableEq

/-- The code that sets a colour. -/
def Colour.code : Colour → String
  | .boldBlue => "\x1b[1;34m"
  | .boldCyan => "\x1b[1;36m"
  | .cyan => "\x1b[36m"
  | .green => "\x1b[32m"
  | .magenta => "\x1b[35m"
  | .yellow => "\x1b[33m"

/-- The text in a colour. -/
def Colour.paint (colour : Colour) (text : String) : String :=
  colour.code ++ text ++ resetCode

/-- The pieces of a line. -/
def pieces (line : List Char) : List (List Char) :=
  (piecesFrom? line 0).get (isSome_piecesFrom? line)

/-- The colour of a word. -/
def wordColour? (tables : Tables) (word : String) : Option Colour :=
  if isAmong keywords word then some .boldBlue
  else if isAmong elementTypes word then some .yellow
  else if tables.knows word then some .cyan
  else none

/-- The colour of a piece. -/
def pieceColour? (tables : Tables) : List Char → Option Colour
  | [] => none
  | first :: rest =>
    if first = '\'' then some .green
    else if first.isDigit then some .magenta
    else if isNameStart first then wordColour? tables (String.ofList (first :: rest))
    else none

/-- A piece with its colour. -/
def paintPiece (tables : Tables) (piece : List Char) : String :=
  match pieceColour? tables piece with
  | some colour => colour.paint (String.ofList piece)
  | none => String.ofList piece

/-- A line with colours. Blank lines have none, and commands of the console are in one colour. -/
def highlight (tables : Tables) (line : String) : String :=
  if (trim line.toList).isEmpty then line
  else if isCommand line.toList then Colour.cyan.paint line
  else String.join ((pieces line.toList).map (paintPiece tables))

/-- The prompt with its colour. -/
def highlightPrompt (prompt : String) : String :=
  Colour.boldCyan.paint prompt

/-- Whether the colours of a line are written anew when a character changes: always. -/
def highlightsOnChange (_line : String) : Bool := true

end VideoPlan.Console
