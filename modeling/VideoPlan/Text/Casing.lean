import VideoPlan.Text.CaseTable
import VideoPlan.Text.Cased

/-!
# Upper and lower case of text

Names are compared after lower-casing and functions are named in upper case, over all of Unicode. A
capital sigma is the one letter whose lower case depends on its place: at the end of a word it is the
final sigma. Reserved words of the declaration language and element types ignore case in ASCII only.
-/

namespace VideoPlan.Text

/-- Whether the nearest character that is not case-ignorable is cased. -/
def startsCased (cs : List Char) : Bool :=
  match cs.dropWhile isCaseIgnorable with
  | c :: _ => isCased c
  | [] => false

/-- The lower case of a sigma between the reversed text before it and the text after it. -/
def lowerSigma (before after : List Char) : Char :=
  if startsCased before && !startsCased after then 'ς' else 'σ'

/-- The lower case of `cs`, which follows the reversed text `before`. -/
def lowerAfter (before : List Char) : List Char → List Char
  | [] => []
  | c :: rest =>
    (if c = 'Σ' then [lowerSigma before rest] else lowerChar c) ++ lowerAfter (c :: before) rest

/-- The text in lower case. -/
def lowercase (s : String) : String :=
  String.ofList (lowerAfter [] s.toList)

/-- The text in upper case. -/
def uppercase (s : String) : String :=
  String.ofList (s.toList.flatMap upperChar)

/-- The text with the letters a to z in upper case. -/
def asciiUppercase (s : String) : String :=
  String.ofList (s.toList.map Char.toUpper)

/-- Whether two texts differ at most in the case of the letters a to z. -/
def sameIgnoringAsciiCase (s t : String) : Bool :=
  asciiUppercase s == asciiUppercase t

end VideoPlan.Text
