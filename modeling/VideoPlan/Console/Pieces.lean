import VideoPlan.Text.Alphabetic
import VideoPlan.Text.Numeric
import VideoPlan.Text.Offset

/-!
# Pieces of a line

A line is cut into strings, numbers, words and single characters. How long a piece is counts in bytes, and a
piece is what lies between two byte offsets of the line.
-/

namespace VideoPlan.Console

open Text

/-- Whether a word may start with `c`. -/
def isNameStart (c : Char) : Bool :=
  isAlphabetic c || c = '_'

/-- Whether a word may go on with `c`. -/
def isNamePart (c : Char) : Bool :=
  isAlphabetic c || isNumeric c || c = '_'

/-- Whether a number may go on with `c`. -/
def isNumberPart (c : Char) : Bool :=
  c.isDigit || c = '.'

/-- The byte offset of the first character with `p`, if there is one. -/
def findByte? (p : Char → Bool) : List Char → Option Nat
  | [] => none
  | c :: rest => if p c then some 0 else (findByte? p rest).map (c.utf8Size + ·)

/-- The number of bytes of the first character and of those behind it, up to the first without `p`. -/
def spanBytes (p : Char → Bool) : List Char → Nat
  | [] => 0
  | first :: rest =>
    match findByte? (!p ·) rest with
    | some offset => first.utf8Size + offset
    | none => byteLength (first :: rest)

/-- The number of bytes of the piece at the start of a text. A string ends with its closing quote, or with the text if
there is none. -/
def pieceBytes? : List Char → Option Nat
  | [] => some 0
  | first :: rest =>
    if first = '\'' then
      (dropBytes? 1 (first :: rest)).map fun inside =>
        match findByte? (· = '\'') inside with
        | some offset => offset + 2
        | none => byteLength (first :: rest)
    else if first.isDigit then some (spanBytes isNumberPart (first :: rest))
    else if isNameStart first then some (spanBytes isNamePart (first :: rest))
    else some first.utf8Size

/-- The pieces of a line from a byte offset on. There are none to give if the line would be cut inside a character, or
if a piece took nothing and the next one started where it did. -/
def piecesFrom? (line : List Char) (offset : Nat) : Option (List (List Char)) :=
  if offset < byteLength line then do
    let rest ← dropBytes? offset line
    let (piece, _) ← splitAtByte? (← pieceBytes? rest) rest
    if 0 < byteLength piece then
      (piecesFrom? line (offset + byteLength piece)).map (piece :: ·)
    else none
  else some []
termination_by byteLength line - offset

end VideoPlan.Console
