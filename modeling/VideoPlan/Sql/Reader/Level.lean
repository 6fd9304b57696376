import VideoPlan.Sql.Reader

/-!
# How tightly operators bind

Each operator has a level; of two operators around an operand the one of the higher level takes it. An
operator that is several words is known by the words that come next.
-/

namespace VideoPlan.Sql.Reader

namespace Level

def or : Nat := 5
def and : Nat := 10
def not : Nat := 15
def rare : Nat := 16
def is : Nat := 17
def like : Nat := 19
def comparison : Nat := 20
def bitOr : Nat := 21
def bitXor : Nat := 22
def bitAnd : Nat := 23
def xor : Nat := 24
def sum : Nat := 30
def product : Nat := 40
def timeZone : Nat := 41
def cast : Nat := 50

end Level

/-- Operators that are words, with their levels. -/
def keywordLevels : List (String × Nat) :=
  [("AND", Level.and), ("OR", Level.or), ("XOR", Level.xor), ("IS", Level.is), ("IN", Level.comparison),
    ("BETWEEN", Level.comparison), ("LIKE", Level.like), ("ILIKE", Level.like), ("RLIKE", Level.like),
    ("REGEXP", Level.like), ("SIMILAR", Level.like), ("OPERATOR", Level.comparison), ("DIV", Level.product)]

/-- Operators that may follow `NOT`. -/
def negatableWords : List String :=
  ["IN", "BETWEEN", "LIKE", "ILIKE", "RLIKE", "REGEXP", "SIMILAR"]

/-- Operators that are symbols, with their levels. -/
def symbolLevels : List (String × Nat) :=
  [("=", Level.comparison), ("<", Level.comparison), ("<=", Level.comparison), ("<>", Level.comparison),
    (">", Level.comparison), (">=", Level.comparison), ("==", Level.comparison),
    ("<=>", Level.comparison), ("~", Level.comparison), ("~*", Level.comparison),
    ("!~", Level.comparison), ("!~*", Level.comparison), ("~~", Level.comparison),
    ("~~*", Level.comparison), ("!~~", Level.comparison), ("!~~*", Level.comparison),
    ("|", Level.bitOr), ("^", Level.bitXor), ("#", Level.bitXor), ("<<", Level.bitXor),
    (">>", Level.bitXor), ("&", Level.bitAnd), ("+", Level.sum), ("-", Level.sum), ("*", Level.product),
    ("/", Level.product), ("//", Level.product), ("%", Level.product), ("||", Level.product),
    ("::", Level.cast), ("!", Level.cast), ("[", Level.cast), ("&&", Level.cast), ("^@", Level.cast),
    ("->", Level.rare), ("->>", Level.rare), ("#>", Level.rare), ("#>>", Level.rare), ("@>", Level.rare),
    ("<@", Level.rare), ("#-", Level.rare), ("@?", Level.rare), ("@@", Level.rare)]

/-- The level of a word behind `NOT`, which is an operator only before some of them. -/
def negatedLevel : List Token → Nat
  | token :: _ =>
    match negatableWords.find? token.isKeyword with
    | some word => (keywordLevels.lookup word).getD 0
    | none => 0
  | [] => 0

/-- The level of a word with the tokens behind it. -/
def wordLevel (keyword : String) (rest : List Token) : Nat :=
  match keyword with
  | "NOT" => negatedLevel rest
  | "AT" => if (afterKeywords? ["TIME", "ZONE"] rest).isSome then Level.timeZone else 0
  | keyword => (keywordLevels.lookup keyword).getD 0

/-- How tightly the operator that comes next binds; zero if none does. -/
def nextLevel : List Token → Nat
  | .operator symbol :: _ => (symbolLevels.lookup symbol).getD 0
  | .word value none :: rest => wordLevel (Text.uppercase value) rest
  | _ => 0

end VideoPlan.Sql.Reader
