import VideoPlan.Sql.Name
import VideoPlan.Sql.Token
import VideoPlan.Text.Escaped

/-!
# Constants of SQL

Numbers, strings and the few words that stand for values. A constant is written as it was read, except that
the escapes of a string are written in one way.
-/

namespace VideoPlan.Sql

open Text

/-- A constant. -/
inductive Value
  /-- A number as written, and whether the suffix `L` follows. -/
  | number (digits : String) (long : Bool)
  | string (style : StringStyle) (value : String)
  /-- A string in double quotes. -/
  | doubleQuoted (value : String)
  | boolean (value : Bool)
  | null
  | placeholder (name : String)
deriving DecidableEq

/-- A character of a string with backslash escapes, as it is written. -/
def backslashEscaped (c : Char) : List Char :=
  if c = '\'' then ['\\', '\'']
  else if c = '\\' then ['\\', '\\']
  else if c = '\n' then ['\\', 'n']
  else if c = '\t' then ['\\', 't']
  else if c = '\r' then ['\\', 'r']
  else [c]

/-- The digits of `n` in base sixteen with capitals, at least `width` of them. -/
def paddedHex (width n : Nat) : List Char :=
  let digits := (hexDigits n).map Char.toUpper
  List.replicate (width - digits.length) '0' ++ digits

/-- A character of a string with code points, as it is written: outside ASCII by its code point. -/
def codePointEscaped (c : Char) : List Char :=
  if c = '\'' then ['\'', '\'']
  else if c = '\\' then ['\\', '\\']
  else if c.toNat < 128 then [c]
  else if c.toNat < 0x10000 then '\\' :: paddedHex 4 c.toNat
  else '\\' :: '+' :: paddedHex 6 c.toNat

/-- The text of a string between its quotes, as it is written. -/
def StringStyle.body (style : StringStyle) (value : String) : String :=
  match style with
  | plain => String.ofList (doubleQuotes '\'' '\x00' value.toList)
  | escaped => String.ofList (value.toList.flatMap backslashEscaped)
  | unicode => String.ofList (value.toList.flatMap codePointEscaped)
  | _ => value

/-- A constant as it is written. -/
def Value.text : Value → String
  | .number digits long => if long then digits ++ "L" else digits
  | .string style value => style.opening ++ style.body value ++ style.closing
  | .doubleQuoted value => quoted '"' value
  | .boolean value => if value then "true" else "false"
  | .null => "NULL"
  | .placeholder name => name

/-- The kind of quotes of a string, as messages name it. -/
def quoteName (quote : Char) : String :=
  if quote = '"' then "Double" else "Single"

/-- A string without a place in plans, as messages show it. -/
def StringStyle.shown (style : StringStyle) (value : String) : String :=
  let shown := Text.escaped value
  match style with
  | plain => "SingleQuotedString(" ++ shown ++ ")"
  | national => "NationalStringLiteral(" ++ shown ++ ")"
  | hex => "HexStringLiteral(" ++ shown ++ ")"
  | .escaped => "EscapedStringLiteral(" ++ shown ++ ")"
  | unicode => "UnicodeStringLiteral(" ++ shown ++ ")"
  | bytes quote => quoteName quote ++ "QuotedByteStringLiteral(" ++ shown ++ ")"
  | raw quote triple =>
    (if triple then "Triple" else "") ++ quoteName quote ++ "QuotedRawStringLiteral(" ++ shown ++ ")"
  | dollar tag =>
    let tag := match tag with
      | some tag => "Some(" ++ Text.escaped tag ++ ")"
      | none => "None"
    "DollarQuotedString(DollarQuotedString \x7b value: " ++ shown ++ ", tag: " ++ tag ++ " \x7d)"

/-- A constant without a place in plans, as messages show it. -/
def Value.shown : Value → String
  | .string style value => style.shown value
  | .placeholder name => "Placeholder(" ++ escaped name ++ ")"
  | value => value.text

end VideoPlan.Sql
