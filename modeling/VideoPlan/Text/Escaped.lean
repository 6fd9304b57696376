import VideoPlan.Text.Hexadecimal
import VideoPlan.Text.Printable

/-!
# Escaped text

How text is shown in double quotes where every character must be visible: quotes and backslashes get a
backslash, common controls a letter, and all else that would not show a code point in hexadecimal.
-/

namespace VideoPlan.Text

/-- The visible form of `c` between double quotes. -/
def escapeChar (c : Char) : List Char :=
  if c.toNat = 0 then ['\\', '0']
  else if c = '\t' then ['\\', 't']
  else if c = '\r' then ['\\', 'r']
  else if c = '\n' then ['\\', 'n']
  else if c = '\\' then ['\\', '\\']
  else if c = '"' then ['\\', '"']
  else if isPrintable c && !isGraphemeExtend c then [c]
  else ['\\', 'u', '\x7b'] ++ hexDigits c.toNat ++ ['\x7d']

/-- The text in double quotes, with all its characters visible. -/
def escaped (s : String) : String :=
  String.ofList ('"' :: s.toList.flatMap escapeChar ++ ['"'])

end VideoPlan.Text
