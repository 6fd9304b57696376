import VideoPlan.Console.Words
import VideoPlan.Text.Blank
import VideoPlan.Text.Offset
import VideoPlan.Text.Uppercase

/-!
# Completing words

What may stand for the word before the cursor: words of statements, then tables where one is expected,
then columns of the tables that the line reads or fills. The cursor is an offset in bytes, and so is the
start of the word; neither may fall inside a character.
-/

namespace VideoPlan.Console

open Text

/-- What may be put for a word, and how it is shown in a list. -/
structure Candidate where
  shown : String
  replacement : String
deriving DecidableEq

/-- A candidate that is shown as it is. -/
def Candidate.plain (text : String) : Candidate :=
  ⟨text, text⟩

/-! ## The word before the cursor -/

/-- Whether a word ends before `c`. -/
def endsWord (c : Char) : Bool :=
  isBlank c || c = ',' || c = '(' || c = ')'

/-- The offset one byte behind the start of the last character that ends a word, if there is one;
`offset` is where the text starts. -/
def afterLastEnd? (offset : Nat) : List Char → Option Nat
  | [] => none
  | c :: rest =>
    match afterLastEnd? (offset + c.utf8Size) rest with
    | some found => some found
    | none => if endsWord c then some (offset + 1) else none

/-- Where the last word of a text starts. -/
def wordStart (cs : List Char) : Nat :=
  (afterLastEnd? 0 cs).getD 0

/-! ## Tables that a line names -/

/-- What follows the last occurrence of a text. -/
def afterLast? (wanted : List Char) : List Char → Option (List Char)
  | [] => if wanted.isEmpty then some [] else none
  | c :: rest =>
    match afterLast? wanted rest with
    | some found => some found
    | none => if wanted.isPrefixOf (c :: rest) then some ((c :: rest).drop wanted.length) else none

/-- Whether the line, in lower case, is at the word behind one after which a table is expected. -/
def expectsTable (line : List Char) : Bool :=
  ["from", "into", "table"].any fun word =>
    match afterLast? word.toList line with
    | some rest => (words rest).length ≤ 1
    | none => false

/-- The name of a table without the punctuation behind it. -/
def bareName (word : List Char) : List Char :=
  let trimmed := (word.reverse.dropWhile fun c => c = ',' || c = ';').reverse
  trimmed.takeWhile (· != '(')

/-- The names that follow a word after which a table is read or filled. -/
def namesAfter : List (List Char) → List String
  | first :: second :: rest =>
    if first = "from".toList || first = "into".toList then
      String.ofList (bareName second) :: namesAfter (second :: rest)
    else namesAfter (second :: rest)
  | _ => []

/-- The tables that a line in lower case names. -/
def namedTables (line : List Char) : List String :=
  namesAfter (words line)

/-! ## Candidates -/

/-- Whether a text starts with the other one. -/
def startsWith (text start : String) : Bool :=
  start.toList.isPrefixOf text.toList

/-- The words of statements and element types that a word in lower case starts. They are put in the case
in which the word was begun. -/
def keywordCandidates (capital : Bool) (word : String) : List Candidate :=
  ((keywords ++ elementTypes).filter fun keyword => startsWith (lowercase keyword) word).map
    fun keyword => ⟨keyword, if capital then keyword else lowercase keyword⟩

/-- The tables whose names a word in lower case starts. -/
def tableCandidates (tables : Tables) (word : String) : List Candidate :=
  (tables.names.filter (startsWith · word)).map .plain

/-- Adds the columns that a word in lower case starts, except those that are candidates already in some
case. -/
def addColumns (word : String) (candidates : List Candidate) : List String → List Candidate
  | [] => candidates
  | column :: columns =>
    let known := candidates.any fun candidate => lowercase candidate.replacement == lowercase column
    if startsWith (lowercase column) word && !known then
      addColumns word (candidates ++ [.plain column]) columns
    else addColumns word candidates columns

/-- Whether the line is a command of the console. -/
def isCommand (line : List Char) : Bool :=
  (trimStart line).head? = some '\\'

/-- What may stand for the last word of a line. -/
def candidates (tables : Tables) (line word : List Char) : List Candidate :=
  let lowerLine := (lowercase (String.ofList line)).toList
  let lowerWord := lowercase (String.ofList word)
  if isCommand line then (commands.filter (startsWith · lowerWord)).map .plain
  else
    let capital := match word with
      | c :: _ => isUppercase c
      | [] => true
    let ofTables :=
      if expectsTable lowerLine || lowerWord.isEmpty then tableCandidates tables lowerWord else []
    let columns := (namedTables lowerLine).flatMap fun name => (tables.lookup name).getD []
    addColumns lowerWord (keywordCandidates capital lowerWord ++ ofTables) columns

/-- The start of the word before the cursor and what may stand for it; nothing if the cursor or the start
falls outside the line or inside a character. -/
def complete? (tables : Tables) (line : String) (cursor : Nat) : Option (Nat × List Candidate) := do
  let (before, _) ← splitAtByte? cursor line.toList
  let start := wordStart before
  let word ← dropBytes? start before
  return (start, candidates tables before word)

end VideoPlan.Console
