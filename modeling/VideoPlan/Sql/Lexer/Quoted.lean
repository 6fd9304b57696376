import VideoPlan.Number.Decimal
import VideoPlan.Text.Hexadecimal

/-!
# Strings, quoted words and comments

What stands between an opening and its closing. Each reader here starts behind the opening; it answers the
text and what follows the closing, or nothing if the closing is missing or an escape says no character.
-/

namespace VideoPlan.Sql

open Text Number

/-- A text that was read, and what follows it. -/
abbrev Scanned := List Char × List Char

/-- The same with a character before the text. -/
def Scanned.behind (c : Char) (scanned : Scanned) : Scanned :=
  (c :: scanned.1, scanned.2)

/-- The character that is written by a backslash before `c`. -/
def backslashed (c : Char) : Char :=
  match c with
  | '0' => '\x00'
  | 'a' => '\x07'
  | 'b' => '\x08'
  | 'f' => '\x0c'
  | 'n' => '\n'
  | 'r' => '\r'
  | 't' => '\t'
  | 'Z' => '\x1a'
  | c => c

/-- The text up to the closing quote. A doubled quote stands for itself; a backslash counts if `escapes` are
known. -/
def scanQuoted? (escapes : Bool) (quote : Char) : List Char → Option Scanned
  | [] => none
  | [c] => if c = quote then some ([], []) else none
  | c :: d :: rest =>
    if c = quote then
      if d = quote then (scanQuoted? escapes quote rest).map (·.behind quote) else some ([], d :: rest)
    else if escapes && c = '\\' then (scanQuoted? escapes quote rest).map (·.behind (backslashed d))
    else (scanQuoted? escapes quote (d :: rest)).map (·.behind c)

/-- The text up to the first three quotes in a row. -/
def scanTriple? (quote : Char) : List Char → Option Scanned
  | [] => none
  | c :: rest =>
    if (List.replicate 3 quote).isPrefixOf (c :: rest) then some ([], rest.drop 2)
    else (scanTriple? quote rest).map (·.behind c)

/-! ## Escapes -/

/-- The character of a code point. -/
def charOf? (n : Nat) : Option Char :=
  if h : n.isValidChar then some (Char.ofNatAux n h) else none

/-- The same character, unless it is that of code point zero. -/
def notNull? (c : Char) : Option Char :=
  if c.toNat = 0 then none else some c

/-- The character of one byte, which must be in ASCII. -/
def charOfByte? (n : Nat) : Option Char :=
  if n % 256 < 128 then charOf? (n % 256) else none

/-- Whether `c` is an octal digit. -/
def isOctal (c : Char) : Bool :=
  '0' ≤ c && c ≤ '7'

/-- The number that a plus sign, if there is one, and hexadecimal digits write. -/
def ofSignedHex? : List Char → Option Nat
  | '+' :: digits => ofHexDigits? digits
  | digits => ofHexDigits? digits

/-- The character of a code point written in `width` places. -/
def scanCodePoint? (width : Nat) (cs : List Char) : Option (Char × List Char) :=
  if cs.length < width then none
  else ((ofSignedHex? (cs.take width)).bind charOf?).map (·, cs.drop width)

/-- The character that is written by a backslash before `cs` in a string with escapes, and what follows
it. -/
def scanEscape? (cs : List Char) : Option (Char × List Char) :=
  match cs with
  | [] => none
  | 'b' :: rest => some ('\x08', rest)
  | 'f' :: rest => some ('\x0c', rest)
  | 'n' :: rest => some ('\n', rest)
  | 'r' :: rest => some ('\r', rest)
  | 't' :: rest => some ('\t', rest)
  | 'u' :: rest => scanCodePoint? 4 rest
  | 'U' :: rest => scanCodePoint? 8 rest
  | 'x' :: rest =>
    let digits := (rest.take 2).takeWhile fun c => (hexValue? c).isSome
    if digits.isEmpty then some ('x', rest)
    else ((ofHexDigits? digits).bind charOfByte?).map (·, rest.drop digits.length)
  | c :: rest =>
    if isOctal c then
      let digits := c :: (rest.take 2).takeWhile isOctal
      (charOfByte? (digits.foldl (fun n d => n * 8 + digitValue d) 0)).map
        (·, (c :: rest).drop digits.length)
    else some (c, rest)

/-- The text of a string with backslash escapes. No escape may say the character of code point zero. -/
def scanEscaped? (cs : List Char) : Option Scanned :=
  match cs with
  | [] => none
  | '\'' :: '\'' :: rest => (scanEscaped? rest).map (·.behind '\'')
  | '\'' :: rest => some ([], rest)
  | '\\' :: rest =>
    match scanEscape? rest with
    | none => none
    | some (c, after) =>
      if _h : after.length ≤ rest.length then
        (notNull? c).bind fun c => (scanEscaped? after).map (·.behind c)
      else none
  | c :: rest => (scanEscaped? rest).map (·.behind c)
termination_by cs.length

/-- The character of a code point in exactly `width` hexadecimal digits. -/
def scanHexPoint? (width : Nat) (cs : List Char) : Option (Char × List Char) :=
  if cs.length < width then none
  else ((ofHexDigits? (cs.take width)).bind charOf?).map (·, cs.drop width)

/-- The text of a string with code points: a backslash before four digits, or with a plus sign before six. -/
def scanUnicode? (cs : List Char) : Option Scanned :=
  match cs with
  | [] => none
  | '\'' :: '\'' :: rest => (scanUnicode? rest).map (·.behind '\'')
  | '\'' :: rest => some ([], rest)
  | '\\' :: '\\' :: rest => (scanUnicode? rest).map (·.behind '\\')
  | '\\' :: rest =>
    let point := match rest with
      | '+' :: digits => scanHexPoint? 6 digits
      | digits => scanHexPoint? 4 digits
    match point with
    | none => none
    | some (c, after) =>
      if _h : after.length ≤ rest.length then (scanUnicode? after).map (·.behind c) else none
  | c :: rest => (scanUnicode? rest).map (·.behind c)
termination_by cs.length

/-! ## Dollar signs -/

/-- The text up to two dollar signs in a row; `afterDollar` if one was the last character. -/
def scanDollars? (afterDollar : Bool) : List Char → Option Scanned
  | [] => none
  | c :: rest =>
    if c = '$' then if afterDollar then some ([], rest) else scanDollars? true rest
    else
      (scanDollars? false rest).map fun scanned =>
        if afterDollar then (scanned.behind c).behind '$' else scanned.behind c

/-- The characters at the start of both lists. -/
def sharedStart : List Char → List Char → List Char
  | c :: cs, d :: ds => if c = d then c :: sharedStart cs ds else []
  | _, _ => []

/-- The text up to the tag between two dollar signs. Behind a dollar sign nothing is looked at twice: the
character that differs from the tag belongs to the text. -/
def scanTagged? (tag cs : List Char) : Option Scanned :=
  match cs with
  | [] => none
  | c :: rest =>
    if c != '$' then (scanTagged? tag rest).map (·.behind c)
    else
      let same := sharedStart tag rest
      let behind := rest.drop same.length
      if same.length < tag.length then
        match _h : behind with
        | [] => none
        | d :: after =>
          (scanTagged? tag after).map fun (text, last) => ('$' :: same ++ d :: text, last)
      else
        match _h : behind with
        | '$' :: after => some ([], after)
        | after => (scanTagged? tag after).map fun (text, last) => ('$' :: same ++ text, last)
termination_by cs.length
decreasing_by
  all_goals simp_all only [List.length_cons]
  · omega
  · have := congrArg List.length _h
    simp only [List.length_drop, List.length_cons, behind] at this
    omega
  · have := congrArg List.length _h
    simp only [List.length_drop, behind] at this
    omega

/-! ## Comments -/

/-- What follows a comment between `/*` and `*/` that is open `depth` times; `last` is the character
before. -/
def skipComment? (depth : Nat) (last : Char) : List Char → Option (List Char)
  | [] => none
  | c :: rest =>
    if last = '/' && c = '*' then skipComment? (depth + 1) c rest
    else if last = '*' && c = '/' then
      if depth = 1 then some rest else skipComment? (depth - 1) c rest
    else skipComment? depth c rest

end VideoPlan.Sql
