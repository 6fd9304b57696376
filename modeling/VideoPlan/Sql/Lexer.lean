import VideoPlan.Sql.Lexer.Quoted
import VideoPlan.Sql.Token
import VideoPlan.Text.Alphabetic
import VideoPlan.Text.Blank
import VideoPlan.Text.Numeric

/-!
# Reading tokens

`Token.scan?` cuts a text into tokens. It refuses a text that ends inside a string, a quoted word or a
comment. At each place the longest token counts.
-/

namespace VideoPlan.Sql

open Text Number

/-! ## Words and numbers -/

/-- Whether a word may start with `c`. -/
def isWordStart (c : Char) : Bool :=
  isAlphabetic c || c = '_' || c = '#' || c = '@'

/-- Whether a word may go on with `c`. -/
def isWordPart (c : Char) : Bool :=
  isAlphabetic c || c.isDigit || c = '_' || c = '#' || c = '@' || c = '$'

/-- The rest of a word that starts with `start`. -/
def scanWord (start cs : List Char) : Token × List Char :=
  let (more, rest) := cs.span isWordPart
  (.word (String.ofList (start ++ more)) none, rest)

/-- An exponent, if one starts here: an `e`, an optional sign and at least one digit. -/
def scanExponent (cs : List Char) : List Char × List Char :=
  let sign : List Char × List Char := match cs with
    | 'e' :: '+' :: rest => (['e', '+'], rest)
    | 'e' :: '-' :: rest => (['e', '-'], rest)
    | 'e' :: rest => (['e'], rest)
    | 'E' :: '+' :: rest => (['E', '+'], rest)
    | 'E' :: '-' :: rest => (['E', '-'], rest)
    | 'E' :: rest => (['E'], rest)
    | _ => ([], cs)
  let (digits, rest) := sign.2.span Char.isDigit
  if sign.1.isEmpty || digits.isEmpty then ([], cs) else (sign.1 ++ digits, rest)

/-- A number with an optional point, exponent and suffix, or a lone point. -/
def scanNumber (cs : List Char) : Token × List Char :=
  let (whole, rest) := cs.span Char.isDigit
  match whole, rest with
  | ['0'], 'x' :: rest =>
    let (digits, rest) := rest.span fun c => (hexValue? c).isSome
    (.string .hex (String.ofList digits), rest)
  | _, _ =>
    let point := if rest.head? = some '.' then ['.'] else []
    let (places, rest) := (rest.drop point.length).span Char.isDigit
    if whole.isEmpty && places.isEmpty then (.period, rest)
    else
      let (exponent, rest) := scanExponent rest
      let long := rest.head? = some 'L'
      (.number (String.ofList (whole ++ point ++ places ++ exponent)) long,
        if long then rest.drop 1 else rest)

/-! ## Operators -/

/-- The spellings of operators, longer ones before their beginnings. -/
def operatorSpellings : List String :=
  ["!~~*", "->>", "<=>", "#>>", "||/", "!~~", "!~*", "~~*", "->", "//", "|/", "||", "=>", "==", "!=", "!!",
    "!~", "<=", "<>", "<<", "<@", ">=", ">>", "::", ":=", "&&", "^@", "~*", "~~", "#-", "#>", "@>", "@?",
    "@@", "+", "-", "*", "/", "%", "|", "=", "!", "<", ">", ":", "&", "^", "~", "#", "@", "[", "]", "\\",
    "\x7b", "\x7d"]

/-- The longest operator at the start of the text. -/
def scanOperator? (cs : List Char) : Option (Token × List Char) :=
  (operatorSpellings.find? fun spelling => spelling.toList.isPrefixOf cs).map fun spelling =>
    (.operator (if spelling = "!=" then "<>" else spelling), cs.drop spelling.length)

/-! ## Strings -/

/-- The string that a text in quotes is. -/
def stringToken? (style : StringStyle) (text : Option Scanned) : Option (Option Token × List Char) :=
  text.map fun (value, rest) => (some (.string style (String.ofList value)), rest)

/-- A string without escapes from its quote on. Two quotes are an empty string, and three open a string that
three end. -/
def scanRaw? (quote : Char) (cs : List Char) : Option (Option Token × List Char) :=
  match (cs.takeWhile (· = quote)).length with
  | 0 => none
  | 1 => stringToken? (.raw quote false) (scanQuoted? false quote (cs.drop 1))
  | 2 => some (some (.string (.raw quote false) ""), cs.drop 2)
  | _ => stringToken? (.raw quote true) (scanTriple? quote (cs.drop 3))

/-- What a dollar sign before `cs` opens: a string between dollar signs or a place for a value. -/
def scanDollar? (cs : List Char) : Option (Option Token × List Char) :=
  let (tag, rest) := cs.span fun c => isAlphabetic c || isNumeric c || c = '_'
  match tag, rest with
  | [], '$' :: rest => stringToken? (.dollar none) (scanDollars? false rest)
  | _, '$' :: rest => stringToken? (.dollar (some (String.ofList tag))) (scanTagged? tag rest)
  | _, rest => some (some (.placeholder (String.ofList ('$' :: tag))), rest)

/-- A string that a letter or a quote opens. -/
def scanString? (cs : List Char) : Option (Option (Option Token × List Char)) :=
  match cs with
  | '\'' :: rest => some (stringToken? .plain (scanQuoted? false '\'' rest))
  | 'U' :: '&' :: '\'' :: rest => some (stringToken? .unicode (scanUnicode? rest))
  | 'u' :: '&' :: '\'' :: rest => some (stringToken? .unicode (scanUnicode? rest))
  | letter :: quote :: rest =>
    if quote = '\'' || quote = '"' then
      match letter.toUpper with
      | 'B' => some (stringToken? (.bytes quote) (scanQuoted? false quote rest))
      | 'R' => some (scanRaw? quote (quote :: rest))
      | 'N' =>
        if quote = '\'' then some (stringToken? .national (scanQuoted? true quote rest)) else none
      | 'X' =>
        if quote = '\'' then some (stringToken? .hex (scanQuoted? true quote rest)) else none
      | 'E' => if quote = '\'' then some (stringToken? .escaped (scanEscaped? rest)) else none
      | _ => none
    else none
  | _ => none

/-! ## Tokens -/

/-- A word that starts with `#` or `@`. Whatever follows the sign belongs to the word, unless it makes an
operator with it or stands apart. -/
def scanSigned (sign cs : List Char) (apart : Char → Bool) : Option (Token × List Char) :=
  match cs with
  | [] => none
  | c :: rest => if apart c then none else some (scanWord (sign ++ [c]) rest)

/-- The token or the blank at the start of a text that no string starts. -/
def scanPlain? : List Char → Option (Option Token × List Char)
  | [] => none
  | '-' :: '-' :: rest => some (none, (rest.dropWhile (· != '\n')).drop 1)
  | '/' :: '*' :: rest => (skipComment? 1 ' ' rest).map (none, ·)
  | ',' :: rest => some (some .comma, rest)
  | ';' :: rest => some (some .semicolon, rest)
  | '(' :: rest => some (some .leftParen, rest)
  | ')' :: rest => some (some .rightParen, rest)
  | '$' :: rest => scanDollar? rest
  | '?' :: rest =>
    let (digits, rest) := rest.span isNumeric
    some (some (.placeholder (String.ofList ('?' :: digits))), rest)
  | c :: rest =>
    if c = '"' || c = '`' then
      (scanQuoted? false c rest).map fun (value, rest) =>
        (some (.word (String.ofList value) (some c)), rest)
    else if c.isDigit || c = '.' then
      let (token, rest) := scanNumber (c :: rest)
      some (some token, rest)
    else if c = '#' || c = '@' then
      let signed := match c, rest with
        | '@', '@' :: more => scanSigned ['@', '@'] more (· = ' ')
        | '@', _ => scanSigned ['@'] rest fun d => d = '>' || d = '?' || d = ' '
        | _, _ => scanSigned [c] rest fun d => d = '-' || d = '>' || d = ' '
      match signed with
      | some (token, rest) => some (some token, rest)
      | none => (scanOperator? (c :: rest)).map fun (token, rest) => (some token, rest)
    else if isWordStart c then
      let (token, rest) := scanWord [c] rest
      some (some token, rest)
    else if isBlank c then some (none, rest)
    else match scanOperator? (c :: rest) with
      | some (token, rest) => some (some token, rest)
      | none => some (some (.operator c.toString), rest)

/-- The token or the blank at the start of the text, and what follows it. -/
def scanOne? (cs : List Char) : Option (Option Token × List Char) :=
  match scanString? cs with
  | some scanned => scanned
  | none => scanPlain? cs

/-- The tokens of a text; `none` if it ends inside one of them. -/
def scanAll? (cs : List Char) : Option (List Token) :=
  match cs with
  | [] => some []
  | c :: text =>
    match scanOne? (c :: text) with
    | none => none
    | some (token, rest) =>
      if _h : rest.length ≤ text.length then
        (scanAll? rest).map fun tokens => token.toList ++ tokens
      else none
termination_by cs.length

/-- The tokens of a text; `none` if it ends inside one of them. -/
def Token.scan? (sql : String) : Option (List Token) :=
  scanAll? sql.toList

end VideoPlan.Sql
