import VideoPlan.Proofs.Expr.Columns
import VideoPlan.Proofs.Number.Digits
import VideoPlan.Proofs.Scope.Order
import VideoPlan.Proofs.Text.Mark

/-!
# Plain expressions over a scope

Where the names of an expression are plain and its constants are integers and texts without quotes, each of them is
a word or a quoted text. Identifiers are such names (`isColumnName_of_identifier`). A column is told by its name if it
is one of a scope, as the columns of bound expressions are (`over_of_ofSql`).
-/

namespace VideoPlan.Expr

open Text

/-! ## Plain expressions -/

/-- A text that is read as one word: it is a name, and no text in quotes. -/
structure IsWord (text : List Char) : Prop where
  nonempty : text ≠ []
  noText : text.head? ≠ some '\''
  named : isName none text = true

/-- A word that names a column, which is neither an integer nor an operation before an operand. -/
structure IsColumnName (name : String) : Prop where
  word : IsWord name.toList
  noInteger : readInteger? name.toList = none
  noOperation : name ≠ "NOT" ∧ name ≠ "-"

/-- Expressions with plain names, whose constants are integers and texts without quotes. -/
inductive Plain : Expr → Prop
  | column {entry : Column} (named : IsColumnName entry.name) : Plain (.column entry)
  | integer (value : Int64) : Plain (.literal (.integer value))
  | text {value : String} (noQuote : '\'' ∉ value.toList) : Plain (.literal (.text value))
  | binary (op : BinaryOp) {left right : Expr} (plainLeft : Plain left) (plainRight : Plain right) :
      Plain (.binary op left right)
  | unary (op : UnaryOp) {operand : Expr} (plain : Plain operand) : Plain (.unary op operand)
  | call {name : String} {args : List Expr} (named : IsWord name.toList) (plain : ∀ arg ∈ args, Plain arg) :
      Plain (.call name args)
  | inList (negated : Bool) {operand : Expr} {list : List Expr} (plain : Plain operand)
      (plainList : ∀ item ∈ list, Plain item) : Plain (.inList negated operand list)
  | between (negated : Bool) {operand low high : Expr} (plain : Plain operand) (plainLow : Plain low)
      (plainHigh : Plain high) : Plain (.between negated operand low high)

/-! ## Words -/

theorem IsWord.spanName {word : List Char} (isWord : IsWord word) {rest : List Char}
    (ends : ∀ c ∈ rest.head?, endsName c = true) : spanName none (word ++ rest) = (word, rest) :=
  spanName_append isWord.named ends

/-- A word starts neither with what ends names nor with the quote of a text. -/
theorem IsWord.append_ne {word : List Char} (isWord : IsWord word) {mark : Char}
    (opens : endsName mark = true ∨ mark = '\'') (rest rest' : List Char) : word ++ rest ≠ mark :: rest' := by
  intro same
  obtain ⟨c, cs, rfl⟩ := List.exists_cons_of_ne_nil isWord.nonempty
  obtain ⟨rfl, -⟩ := List.cons.inj same
  rcases opens with ending | rfl
  · have named := isWord.named
    simp [isName, ending] at named
  · exact isWord.noText rfl

/-- What no word holds: what ends names, and quotes. -/
def wordBreaks : List Char :=
  [' ', ',', '(', ')', '"', '`', '\'']

/-- Characters of a kind that neither ends nor quotes names make a word. -/
theorem isWord_of_parts {part : Char → Bool} (noBreak : wordBreaks.any part = false) {word : List Char}
    (nonempty : word ≠ []) (parts : ∀ c ∈ word, part c = true) : IsWord word := by
  have differs {c : Char} (member : c ∈ word) : c ∉ wordBreaks := by
    intro breaks
    exact List.any_eq_false.mp noBreak c breaks (parts c member)
  refine ⟨nonempty, fun first => ?_, isName_of_plain fun c member => ?_⟩
  · exact differs (List.mem_of_mem_head? first) (by decide)
  · have others := differs member
    simp only [wordBreaks, List.mem_cons, List.not_mem_nil, not_or] at others
    simp [endsName, quoteBehind, others]

theorem isWord_integer (value : Int64) : IsWord (toString value.toInt).toList := by
  have parts : ∀ c ∈ (toString value.toInt).toList, (c.isDigit || decide (c = '-')) = true := fun c member => by
    simpa using mem_toString_integer member
  exact isWord_of_parts (by decide) (toString_integer_ne_nil _) parts

/-- Whether an identifier without quotes may hold `c`. -/
def isIdentifierPart (c : Char) : Bool :=
  c.isAlphanum || c = '_'

/-- An identifier names a column, unless it is the word NOT. -/
theorem isColumnName_of_identifier {name : String} (nonempty : name ≠ "")
    (starts : ∀ c ∈ name.toList.head?, c.isDigit = false) (parts : ∀ c ∈ name.toList, isIdentifierPart c = true)
    (noNot : name ≠ "NOT") : IsColumnName name := by
  have word : IsWord name.toList :=
    isWord_of_parts (by decide) (fun none => nonempty (String.toList_inj.mp none)) parts
  have noSign (d : Char) (sign : isIdentifierPart d = false) (rest : List Char) : name.toList ≠ d :: rest := by
    intro opens
    rw [parts d (opens ▸ List.mem_cons_self)] at sign
    cases sign
  refine ⟨word, ?_, noNot, ?_⟩
  · obtain ⟨c, cs, chars⟩ := List.exists_cons_of_ne_nil word.nonempty
    rw [chars] at starts
    have noDigits : readDigits? (c :: cs) = none := by simp [readDigits?, starts c rfl]
    rw [readInteger?.eq_3 _ (noSign '-' (by decide)) (noSign '+' (by decide)), chars, noDigits]
    rfl
  · rintro rfl
    exact noSign '-' (by decide) [] rfl

/-! ## Columns of a scope -/

/-- The columns of the expression are those that the scope finds by their names. -/
def Over (scope : Scope) (expr : Expr) : Prop :=
  ∀ column ∈ expr.columns, scope.find? column.name = some column

/-- A bound expression is one over its scope. -/
theorem over_of_ofSql (columns : Option (List Column)) {sql : Sql.Expr} {expr : Expr}
    (bound : ofSql (columns.map .ofColumns) sql = .ok expr) : expr.Over (.ofColumns (columns.getD [])) := by
  have inScope := columns_ofSql _ sql expr bound
  intro column member
  cases columns with
  | none =>
    rw [inScope.eq_nil] at member
    cases member
  | some columns =>
    obtain ⟨key, entry⟩ := Scope.mem_columns.mp (inScope.mem_columns column member)
    exact (Scope.mem_entries_iff (Scope.keyed_ofColumns columns) (Scope.nodup_keys_ofColumns columns)).mp
      (List.mem_map_of_mem entry)

theorem Over.of_mem {scope : Scope} {exprs : List Expr}
    (found : ∀ column ∈ columnsOfAll exprs, scope.find? column.name = some column) :
    ∀ expr ∈ exprs, expr.Over scope := by
  induction exprs with
  | nil => exact nofun
  | cons expr exprs ih =>
    obtain ⟨first, others⟩ := List.forall_mem_append.mp found
    exact List.forall_mem_cons.mpr ⟨first, ih others⟩

end VideoPlan.Expr
