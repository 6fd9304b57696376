import VideoPlan.Text.Hexadecimal

/-!
# Tokens of JSON

The pieces of a JSON text between blanks. A string may be well formed and still stand for no text: an
escaped half of a surrogate pair that stands alone is no character.
-/

namespace VideoPlan.Json

open Text

/-- A token. -/
inductive Token
  | leftBrace
  | rightBrace
  | leftBracket
  | rightBracket
  | comma
  | colon
  | null
  | boolean (value : Bool)
  /-- A number as written. -/
  | number (digits : String)
  /-- A string, if it stands for a text. -/
  | string (value : Option String)
deriving DecidableEq

namespace Token

/-! ## Strings -/

/-- The code unit that four hexadecimal digits write, and what follows them. -/
def scanUnit? (cs : List Char) : Option (Nat × List Char) :=
  if cs.length < 4 then none else (ofHexDigits? (cs.take 4)).map (·, cs.drop 4)

/-- Whether the unit is the first half of a pair. -/
def isHighSurrogate (unit : Nat) : Bool :=
  0xD800 ≤ unit && unit < 0xDC00

/-- Whether the unit is the second half of a pair. -/
def isLowSurrogate (unit : Nat) : Bool :=
  0xDC00 ≤ unit && unit < 0xE000

/-- The character of a pair. -/
def ofSurrogates (high low : Nat) : Char :=
  Char.ofNat (0x10000 + (high - 0xD800) * 0x400 + (low - 0xDC00))

/-- The character that a unit begins, if it is one, and what follows it. -/
def scanCodePoint (unit : Nat) (rest : List Char) : Option Char × List Char :=
  if isHighSurrogate unit then
    match rest with
    | '\\' :: 'u' :: more =>
      match scanUnit? more with
      | some (low, after) =>
        if isLowSurrogate low then (some (ofSurrogates unit low), after) else (none, rest)
      | none => (none, rest)
    | _ => (none, rest)
  else if isLowSurrogate unit then (none, rest)
  else (some (Char.ofNat unit), rest)

/-- The character that is written behind a backslash, if it is one, and what follows it. -/
def scanEscape? : List Char → Option (Option Char × List Char)
  | '"' :: rest => some (some '"', rest)
  | '\\' :: rest => some (some '\\', rest)
  | '/' :: rest => some (some '/', rest)
  | 'b' :: rest => some (some '\x08', rest)
  | 'f' :: rest => some (some '\x0c', rest)
  | 'n' :: rest => some (some '\n', rest)
  | 'r' :: rest => some (some '\r', rest)
  | 't' :: rest => some (some '\t', rest)
  | 'u' :: rest => (scanUnit? rest).map fun (unit, rest) => scanCodePoint unit rest
  | _ => none

/-- The text with a character before it, if both are there. -/
def consText (c : Option Char) (text : Option (List Char)) : Option (List Char) := do
  return (← c) :: (← text)

/-- The text up to the closing quote, if the string stands for one, and what follows it. -/
def scanString? (cs : List Char) : Option (Option (List Char) × List Char) :=
  match cs with
  | [] => none
  | '"' :: rest => some (some [], rest)
  | '\\' :: rest =>
    match scanEscape? rest with
    | none => none
    | some (c, after) =>
      if _h : after.length ≤ rest.length then
        (scanString? after).map fun (text, rest) => (consText c text, rest)
      else none
  | c :: rest =>
    if c.toNat < 0x20 then none
    else (scanString? rest).map fun (text, rest) => (consText (some c) text, rest)
termination_by cs.length

/-! ## Numbers -/

/-- Digits, at least one, and what follows them. -/
def scanDigits? (cs : List Char) : Option (List Char × List Char) :=
  let (digits, rest) := cs.span Char.isDigit
  if digits.isEmpty then none else some (digits, rest)

/-- The digits before the point; a zero stands alone. -/
def scanWhole? : List Char → Option (List Char × List Char)
  | '0' :: rest => some (['0'], rest)
  | cs => scanDigits? cs

/-- The point with the digits behind it, if it comes next. -/
def scanFraction? : List Char → Option (List Char × List Char)
  | '.' :: rest => (scanDigits? rest).map fun (digits, rest) => ('.' :: digits, rest)
  | cs => some ([], cs)

/-- The sign of an exponent, if it comes next. -/
def scanSign : List Char → List Char × List Char
  | '+' :: rest => (['+'], rest)
  | '-' :: rest => (['-'], rest)
  | cs => ([], cs)

/-- The exponent, if it comes next. -/
def scanExponent? : List Char → Option (List Char × List Char)
  | c :: cs =>
    if c = 'e' || c = 'E' then
      let (sign, rest) := scanSign cs
      (scanDigits? rest).map fun (digits, rest) => (c :: sign ++ digits, rest)
    else some ([], c :: cs)
  | [] => some ([], [])

/-- A number without its sign. -/
def scanNumber? (cs : List Char) : Option (List Char × List Char) := do
  let (whole, rest) ← scanWhole? cs
  let (fraction, rest) ← scanFraction? rest
  let (exponent, rest) ← scanExponent? rest
  return (whole ++ fraction ++ exponent, rest)

/-! ## Tokens -/

/-- Whether `c` is a blank between tokens. -/
def isBlank (c : Char) : Bool :=
  c = ' ' || c = '\n' || c = '\t' || c = '\r'

/-- The token or the blank at the start of the text, and what follows it. -/
def scanOne? : List Char → Option (Option Token × List Char)
  | '\x7b' :: rest => some (some .leftBrace, rest)
  | '\x7d' :: rest => some (some .rightBrace, rest)
  | '[' :: rest => some (some .leftBracket, rest)
  | ']' :: rest => some (some .rightBracket, rest)
  | ',' :: rest => some (some .comma, rest)
  | ':' :: rest => some (some .colon, rest)
  | 'n' :: 'u' :: 'l' :: 'l' :: rest => some (some .null, rest)
  | 't' :: 'r' :: 'u' :: 'e' :: rest => some (some (.boolean true), rest)
  | 'f' :: 'a' :: 'l' :: 's' :: 'e' :: rest => some (some (.boolean false), rest)
  | '"' :: rest =>
    (scanString? rest).map fun (text, rest) => (some (.string (text.map String.ofList)), rest)
  | '-' :: rest =>
    (scanNumber? rest).map fun (digits, rest) => (some (.number (String.ofList ('-' :: digits))), rest)
  | c :: rest =>
    if isBlank c then some (none, rest)
    else (scanNumber? (c :: rest)).map fun (digits, rest) =>
      (some (.number (String.ofList digits)), rest)
  | [] => none

/-- The tokens of a text. -/
def scanAll? (cs : List Char) : Option (List Token) :=
  match cs with
  | [] => some []
  | c :: text =>
    match scanOne? (c :: text) with
    | none => none
    | some (token, rest) =>
      if _h : rest.length ≤ text.length then
        (scanAll? rest).map fun tokens => token.toList ++ tokens
      else none
termination_by cs.length

end Token

end VideoPlan.Json
