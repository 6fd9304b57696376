import VideoPlan.Sql.Keyword
import VideoPlan.Text.Casing

/-!
# Tokens of SQL text

The pieces of SQL text between blanks and comments. A word in quotes is never a reserved word. Operators
are kept in one spelling each.
-/

namespace VideoPlan.Sql

open Text

/-- The ways to write a string. -/
inductive StringStyle
  /-- A text in single quotes. -/
  | plain
  /-- A text of the national character set, `N'…'`. -/
  | national
  /-- Bytes in hexadecimal, `X'…'` or `0x…`. -/
  | hex
  /-- A text with backslash escapes, `E'…'`. -/
  | escaped
  /-- A text with code points in hexadecimal, `U&'…'`. -/
  | unicode
  /-- A text of bytes in quotes of either kind, `B'…'`. -/
  | bytes (quote : Char)
  /-- A text without escapes in quotes of either kind, `R'…'`; `triple` if three stand on each side. -/
  | raw (quote : Char) (triple : Bool)
  /-- A text between dollar signs, perhaps with a tag between each two of them. -/
  | dollar (tag : Option String)
deriving DecidableEq

namespace StringStyle

/-- What stands before a string. -/
def opening : StringStyle → String
  | plain => "'"
  | national => "N'"
  | hex => "X'"
  | escaped => "E'"
  | unicode => "U&'"
  | bytes quote => String.ofList ['B', quote]
  | raw quote triple => String.ofList ('R' :: List.replicate (if triple then 3 else 1) quote)
  | dollar tag => "$" ++ tag.getD "" ++ "$"

/-- What stands behind a string. -/
def closing : StringStyle → String
  | bytes quote => quote.toString
  | raw quote triple => String.ofList (List.replicate (if triple then 3 else 1) quote)
  | dollar tag => "$" ++ tag.getD "" ++ "$"
  | _ => "'"

end StringStyle

/-- A token. -/
inductive Token
  /-- A word, with its quote character if it is quoted. -/
  | word (value : String) (quote : Option Char)
  /-- A number as written, and whether the suffix `L` follows. -/
  | number (digits : String) (long : Bool)
  | string (style : StringStyle) (value : String)
  /-- A place for a value, such as `?` or `$1`. -/
  | placeholder (name : String)
  | comma
  | period
  | semicolon
  | leftParen
  | rightParen
  | operator (symbol : String)
deriving DecidableEq

namespace Token

/-- A token as messages show it. -/
def shown : Token → String
  | .word value none => value
  | .word value (some quote) => quote.toString ++ value ++ quote.toString
  | .number digits long => if long then digits ++ "L" else digits
  | .string style value => style.opening ++ value ++ style.closing
  | .placeholder name => name
  | .comma => ","
  | .period => "."
  | .semicolon => ";"
  | .leftParen => "("
  | .rightParen => ")"
  | .operator symbol => symbol

/-- The word in upper case, if the token is a word without quotes. -/
def keyword? : Token → Option String
  | .word value none => some (uppercase value)
  | _ => none

/-- Whether the token is this word without quotes, in any case. -/
def isKeyword (token : Token) (name : String) : Bool :=
  token.keyword? == some name

/-- Whether the token is a reserved word. -/
def isReserved (token : Token) : Bool :=
  match token.keyword? with
  | some name => reservedWords.contains name
  | none => false

end Token

/-- The next token as messages show it. -/
def shownNext : List Token → String
  | [] => "EOF"
  | token :: _ => token.shown

end VideoPlan.Sql
