import VideoPlan.Proofs.Expr.Plain

/-!
# A reader of texts of expressions

What a test tests stands before it without parentheses, so an expression is read in two steps: first what is tested
first, then one test after the other (`readHead`, `readTests`). Each step goes on with a shorter text (`ifShorter`).
A word ends before whatever may follow an expression (`Behind`), so it is read as a whole (`IsWord.readHead_word`).
-/

namespace VideoPlan.Expr

open Text

/-! ## Marks -/

/-- A test of an operand before it. -/
inductive Test
  | inList (negated : Bool)
  | between (negated : Bool)

/-- What stands behind the operand of IN. -/
def inMark (negated : Bool) : String :=
  " " ++ notText negated ++ "IN ("

/-- What stands behind the operand of BETWEEN. -/
def betweenMark (negated : Bool) : String :=
  " " ++ notText negated ++ "BETWEEN "

/-- What stands between the operands of an operation. -/
def operationMark (op : BinaryOp) : String :=
  " " ++ op.symbol ++ " "

/-- The marks behind what is tested. -/
def testMarks : List (String × Test) :=
  [(inMark false, .inList false), (inMark true, .inList true), (betweenMark false, .between false),
    (betweenMark true, .between true)]

/-- The operations on two operands. -/
def operations : List BinaryOp :=
  [.add, .subtract, .multiply, .divide, .modulo, .eq, .notEq, .lt, .ltEq, .gt, .gtEq, .and, .or, .like, .notLike,
    .concat]

/-- The marks behind the first operand in parentheses: an operation on it alone, or on it and another one. -/
def operandMarks : List (String × (UnaryOp ⊕ BinaryOp)) :=
  (" IS NULL)", .inl .isNull) :: (" IS NOT NULL)", .inl .isNotNull) ::
    operations.map fun op => (operationMark op, .inr op)

/-- The marks behind an item of a list: its end, or another item. -/
def itemMarks : List (String × Bool) :=
  [(")", false), (", ", true)]

/-- The text behind a mark. -/
def after? (mark : String) (cs : List Char) : Option (List Char) :=
  (firstMark? [(mark, ())] cs).map (·.2)

theorem after?_append (mark : String) (rest : List Char) : after? mark (mark.toList ++ rest) = some rest := by
  rw [after?, firstMark?_append (List.pairwise_singleton _ _) List.mem_cons_self]
  rfl

/-! ## Reading -/

/-- The operation that the text in parentheses starts with, if it stands before its operand. -/
def openingOperation? (cs : List Char) : Option (UnaryOp × List Char) :=
  match spanName none cs with
  | (word, ' ' :: rest) =>
    if word = "NOT".toList then some (.not, rest)
    else if word = "-".toList then some (.negate, rest)
    else none
  | _ => none

/-- The text constant that goes on up to a quote. -/
def readText? (cs : List Char) : Option (Expr × List Char) :=
  match cs.dropWhile (· != '\'') with
  | _ :: rest => some (.literal (.text (String.ofList (cs.takeWhile (· != '\'')))), rest)
  | [] => none

/-- An integer, or a column of the scope. -/
def ofWord? (scope : Scope) (word : List Char) : Option Expr :=
  match readInteger? word with
  | some value => some (.literal (.integer value))
  | none => (scope.find? (String.ofList word)).map .column

/-- Goes on with a text if it is shorter than another one. -/
def ifShorter (rest cs : List Char) (next : rest.length < cs.length → Option α) : Option α :=
  if shorter : rest.length < cs.length then next shorter else none

theorem length_lt_append_of_suffix {before cs rest : List Char} (nonempty : before ≠ []) (suffix : rest <:+ cs) :
    rest.length < (before ++ cs).length := by
  have positive := List.length_pos_iff.mpr nonempty
  have least := suffix.length_le
  rw [List.length_append]
  omega

theorem ifShorter_eq {rest cs : List Char} (shorter : rest.length < cs.length)
    (next : rest.length < cs.length → Option α) : ifShorter rest cs next = next shorter :=
  dif_pos shorter

section

variable (scope : Scope)

mutual

/-- Reads an expression up to the first test of it. -/
def readHead : List Char → Option (Expr × List Char)
  | '(' :: cs => readOperation cs
  | '\'' :: cs => readText? cs
  | cs =>
    match spanName none cs with
    | (name, '(' :: rest) => ifShorter rest cs fun _ => do
      let (args, rest) ← readItems rest
      return (.call (String.ofList name) args, rest)
    | (word, rest) => (ofWord? scope word).map (·, rest)
termination_by cs => (cs.length, 0)

/-- Reads an operation behind its parenthesis. -/
def readOperation (cs : List Char) : Option (Expr × List Char) :=
  match openingOperation? cs with
  | some (op, rest) => ifShorter rest cs fun _ => do
    let (operand, rest) ← readExpr rest
    return (.unary op operand, ← after? ")" rest)
  | none => do
    let (left, rest) ← readExpr cs
    match ← firstMark? operandMarks rest with
    | (.inl op, rest) => return (.unary op left, rest)
    | (.inr op, rest) => ifShorter rest cs fun _ => do
      let (right, rest) ← readExpr rest
      return (.binary op left right, ← after? ")" rest)
termination_by (cs.length, 2)

/-- Reads the tests of what stands before them. -/
def readTests (tested : Expr) (cs : List Char) : Option (Expr × List Char) :=
  match firstMark? testMarks cs with
  | none => some (tested, cs)
  | some (.inList negated, rest) => ifShorter rest cs fun _ => do
    let (list, rest) ← readItems rest
    ifShorter rest cs fun _ => readTests (.inList negated tested list) rest
  | some (.between negated, rest) => ifShorter rest cs fun _ => do
    let (low, rest) ← readExpr rest
    let rest ← after? (operationMark .and) rest
    ifShorter rest cs fun _ => do
      let (high, rest) ← readHead rest
      ifShorter rest cs fun _ => readTests (.between negated tested low high) rest
termination_by (cs.length, 0)

/-- Reads an expression. -/
def readExpr (cs : List Char) : Option (Expr × List Char) := do
  let (head, rest) ← readHead cs
  ifShorter rest cs fun _ => readTests head rest
termination_by (cs.length, 1)

/-- Reads expressions up to a closing parenthesis. -/
def readItems : List Char → Option (List Expr × List Char)
  | ')' :: rest => some ([], rest)
  | cs => do
    let (expr, rest) ← readExpr cs
    ifShorter rest cs fun _ => do
      let (exprs, rest) ← readMore rest
      return (expr :: exprs, rest)
termination_by cs => (cs.length, 2)

/-- Reads the expressions behind one, up to a closing parenthesis. -/
def readMore (cs : List Char) : Option (List Expr × List Char) := do
  match ← firstMark? itemMarks cs with
  | (false, rest) => return ([], rest)
  | (true, rest) => ifShorter rest cs fun _ => do
    let (expr, rest) ← readExpr rest
    ifShorter rest cs fun _ => do
      let (exprs, rest) ← readMore rest
      return (expr :: exprs, rest)
termination_by (cs.length, 0)

end

/-! ## What follows an expression -/

/-- What may follow an expression: nothing, or a blank, a comma or a closing parenthesis. -/
def Behind (rest : List Char) : Prop :=
  ∀ c ∈ rest.head?, endsName c = true ∧ c ≠ '('

instance : (rest : List Char) → Decidable (Behind rest)
  | [] => .isTrue nofun
  | c :: _ => decidable_of_iff (endsName c = true ∧ c ≠ '(')
      ⟨fun behind _ first => Option.some.inj first ▸ behind, fun behind => behind c rfl⟩

/-- No test follows. -/
structure Stops (rest : List Char) : Prop where
  behind : Behind rest
  noTest : firstMark? testMarks rest = none

theorem stops_nil : Stops [] :=
  ⟨nofun, by decide +kernel⟩

theorem Behind.ends {rest : List Char} (behind : Behind rest) : ∀ c ∈ rest.head?, endsName c = true :=
  fun c first => (behind c first).1

/-- A mark that may follow, with anything behind it. -/
theorem Behind.append {mark : List Char} (behind : Behind mark) (nonempty : mark ≠ []) (rest : List Char) :
    Behind (mark ++ rest) := by
  obtain ⟨c, cs, rfl⟩ := List.exists_cons_of_ne_nil nonempty
  exact behind

theorem inMark_ne_nil (negated : Bool) : (inMark negated).toList ≠ [] := by
  cases negated <;> decide +kernel

theorem betweenMark_ne_nil (negated : Bool) : (betweenMark negated).toList ≠ [] := by
  cases negated <;> decide +kernel

theorem behind_inMark (negated : Bool) (rest : List Char) : Behind ((inMark negated).toList ++ rest) := by
  cases negated <;> exact Behind.append (by decide +kernel) (inMark_ne_nil _) rest

theorem behind_betweenMark (negated : Bool) (rest : List Char) : Behind ((betweenMark negated).toList ++ rest) := by
  cases negated <;> exact Behind.append (by decide +kernel) (betweenMark_ne_nil _) rest

/-- A mark that may follow an expression and is not the mark of a test. -/
def Closes (mark : String) : Prop :=
  Behind mark.toList ∧ mark.toList ≠ [] ∧ ∀ entry ∈ testMarks, Differ entry.1 mark

instance (mark : String) : Decidable (Closes mark) :=
  inferInstanceAs (Decidable (_ ∧ _ ∧ _))

theorem Closes.stops {mark : String} (closes : Closes mark) (rest : List Char) : Stops (mark.toList ++ rest) := by
  obtain ⟨behind, nonempty, differs⟩ := closes
  exact ⟨behind.append nonempty rest, firstMark?_eq_none differs rest⟩

theorem stops_closing (rest : List Char) : Stops (")".toList ++ rest) := by
  have closes : Closes ")" := by decide +kernel
  exact closes.stops rest

theorem stops_operationMark (op : BinaryOp) (rest : List Char) : Stops ((operationMark op).toList ++ rest) := by
  have closes : Closes (operationMark op) := by cases op <;> decide +kernel
  exact closes.stops rest

/-! ## Words -/

/-- What starts with a word is neither an operation nor a text constant. -/
theorem IsWord.readHead_append {word : List Char} (isWord : IsWord word) (rest : List Char) :
    readHead scope (word ++ rest) =
      match Text.spanName none (word ++ rest) with
      | (name, '(' :: behind) => ifShorter behind (word ++ rest) fun _ => do
        let (args, rest) ← readItems scope behind
        return (.call (String.ofList name) args, rest)
      | (word, rest) => (ofWord? scope word).map (·, rest) :=
  readHead.eq_3 scope _ (fun _ => isWord.append_ne (.inl rfl) _ _) (fun _ => isWord.append_ne (.inr rfl) _ _)

/-- A word before a parenthesis is the name of a call. -/
theorem IsWord.readHead_call {word : List Char} (isWord : IsWord word) (rest : List Char) :
    readHead scope (word ++ '(' :: rest) =
      (readItems scope rest).bind fun (args, rest) => some (.call (String.ofList word) args, rest) := by
  have ends : ∀ c ∈ ('(' :: rest).head?, endsName c = true := by
    rintro _ ⟨rfl⟩
    rfl
  have shorter : rest.length < (word ++ '(' :: rest).length := by
    rw [List.length_append, List.length_cons]
    omega
  rw [isWord.readHead_append, isWord.spanName ends]
  simp only [ifShorter_eq shorter, Option.bind_eq_bind, Option.pure_def]

/-- Any other word is an integer or a column. -/
theorem IsWord.readHead_word {word : List Char} (isWord : IsWord word) {rest : List Char} (behind : Behind rest) :
    readHead scope (word ++ rest) = (ofWord? scope word).map (·, rest) := by
  rw [isWord.readHead_append, isWord.spanName behind.ends]
  cases rest with
  | nil => rfl
  | cons next rest =>
    split
    · rename_i same
      exact absurd (List.cons.inj (Prod.mk.inj same).2).1 (behind next rfl).2
    · rename_i same
      obtain ⟨rfl, rfl⟩ := Prod.mk.inj same
      rfl

/-- A text constant ends at the first quote. -/
theorem readText?_append {value : List Char} (noQuote : '\'' ∉ value) (rest : List Char) :
    readText? (value ++ '\'' :: rest) = some (.literal (.text (String.ofList value)), rest) := by
  have inside : ∀ c ∈ value, (c != '\'') = true := fun c member =>
    bne_iff_ne.mpr fun quote => noQuote (quote ▸ member)
  rw [readText?, List.takeWhile_append_of_pos inside, List.dropWhile_append_of_pos inside]
  simp

end

end VideoPlan.Expr
