import VideoPlan.Proofs.Statement.Reading
import VideoPlan.Sql.Lexer

/-!
# Declarations as documented and as read

Derivations in one spelling of the grammar are carried over to another one (`Spelling.Derives.carried`): each
word, each list of sizes and each path is, and all the rest stays. From what is documented to what is read,
the tokens stay as they are; only a table name that is `TABLE` in quotes is lost behind INTO, where it counts
as the word. From what is read to what is documented, the tokens are rewritten where they take a liberty
(`Loosened`).

Main statement: `declarations_read_as_documented`.
-/

namespace VideoPlan.Declaration

open Sql (Token)
open Sql.Reader

/-! ## Carrying derivations over -/

/-- A relation between lists of tokens that goes piece by piece. -/
structure Piecewise (R : List Token → List Token → Prop) : Prop where
  refl : ∀ taken, R taken taken
  append : ∀ {first first' second second'}, R first first' → R second second' →
    R (first ++ second) (first' ++ second')

/-- What one grammar derives, the other derives from related tokens. -/
def Carried (R : List Token → List Token → Prop) {α : Type} (grammar grammar' : List Token → α → Prop) : Prop :=
  ∀ taken x, grammar taken x → ∃ taken', grammar' taken' x ∧ R taken taken'

namespace Piecewise

variable {R : List Token → List Token → Prop} (pieces : Piecewise R)
include pieces

theorem cons {second second' : List Token} {token token' : Token} (one : R [token] [token'])
    (others : R second second') : R (token :: second) (token' :: second') :=
  pieces.append one others

theorem separated {α : Type} {separator : Token} {item item' : List Token → α → Prop}
    (items : Carried R item item') : Carried R (Separated separator item) (Separated separator item') := by
  intro taken xs derived
  induction derived with
  | one first =>
    obtain ⟨taken', first', related⟩ := items _ _ first
    exact ⟨taken', .one first', related⟩
  | cons first others ih =>
    obtain ⟨taken', first', related⟩ := items _ _ first
    obtain ⟨more', others', relatedOthers⟩ := ih
    exact ⟨_, .cons first' others', pieces.append related (pieces.cons (pieces.refl [separator]) relatedOthers)⟩

theorem enclosed {α : Type} {grammar grammar' : List Token → α → Prop} (inner : Carried R grammar grammar') :
    Carried R (Enclosed grammar) (Enclosed grammar') := by
  rintro _ x ⟨taken, rfl, derived⟩
  obtain ⟨taken', derived', related⟩ := inner _ _ derived
  exact ⟨_, ⟨taken', rfl, derived'⟩,
    pieces.append (pieces.cons (pieces.refl _) related) (pieces.refl _)⟩

end Piecewise

namespace Spelling

/-- Each word, list of sizes and path in one spelling is one in the other for related tokens. -/
structure CarriedTo (R : List Token → List Token → Prop) (spelling other : Spelling) : Prop where
  word : ∀ {name token}, spelling.word name token → ∃ token', other.word name token' ∧ R [token] [token']
  modifiers : ∀ {sizes}, spelling.modifiers sizes → ∃ sizes', other.modifiers sizes' ∧
    R (.leftParen :: sizes ++ [.rightParen]) (.leftParen :: sizes' ++ [.rightParen])
  path : ∀ {token value}, spelling.path token value → ∃ token', other.path token' value ∧ R [token] [token']

variable {R : List Token → List Token → Prop} {spelling other : Spelling}

theorem carried_dimensions (pieces : Piecewise R) (carried : CarriedTo R spelling other) :
    Carried R (Enclosed (Separated .comma (Single spelling.Dimension)))
      (Enclosed (Separated .comma (Single other.Dimension))) := by
  have item : Carried R (Single spelling.Dimension) (Single other.Dimension) := by
    rintro _ size ⟨token, rfl, derived⟩
    cases derived with
    | bounded long fits => exact ⟨_, ⟨_, rfl, .bounded long fits⟩, pieces.refl _⟩
    | any word =>
      obtain ⟨token', word', related⟩ := carried.word word
      exact ⟨_, ⟨token', rfl, .any word'⟩, related⟩
  exact pieces.enclosed (pieces.separated item)

theorem carried_typing (pieces : Piecewise R) (carried : CarriedTo R spelling other) :
    Carried R spelling.Typing other.Typing := by
  intro taken type derived
  cases derived with
  | scalar word named =>
    obtain ⟨token', word', related⟩ := carried.word word
    exact ⟨_, .scalar word' named, related⟩
  | sized word named takes modifiers =>
    obtain ⟨token', word', related⟩ := carried.word word
    obtain ⟨sizes', modifiers', relatedSizes⟩ := carried.modifiers modifiers
    exact ⟨_, .sized word' named takes modifiers', pieces.cons related relatedSizes⟩
  | array word elementWord named =>
    obtain ⟨token', word', related⟩ := carried.word word
    obtain ⟨element', elementWord', relatedElement⟩ := carried.word elementWord
    exact ⟨_, .array word' elementWord' named, pieces.cons related relatedElement⟩
  | dimensioned word elementWord named sizes =>
    obtain ⟨token', word', related⟩ := carried.word word
    obtain ⟨element', elementWord', relatedElement⟩ := carried.word elementWord
    obtain ⟨sizes', derived', relatedSizes⟩ := carried_dimensions pieces carried _ _ sizes
    exact ⟨_, .dimensioned word' elementWord' named derived',
      pieces.cons related (pieces.cons relatedElement relatedSizes)⟩

theorem carried_columns (pieces : Piecewise R) (carried : CarriedTo R spelling other) :
    Carried R spelling.Columns other.Columns := by
  have item : Carried R spelling.Column other.Column := by
    rintro _ definition ⟨quote, typed, said⟩
    obtain ⟨typing', typed', related⟩ := carried_typing pieces carried _ _ typed
    exact ⟨_, .mk quote typed' said, pieces.append (pieces.cons (pieces.refl _) related) (pieces.refl _)⟩
  exact pieces.enclosed (pieces.separated item)

theorem carried_purpose (pieces : Piecewise R) (carried : CarriedTo R spelling other) :
    Carried R spelling.Purpose other.Purpose := by
  intro taken udfType derived
  cases derived with
  | unsaid => exact ⟨_, .unsaid, pieces.refl _⟩
  | said word quote =>
    obtain ⟨token', word', related⟩ := carried.word word
    exact ⟨_, .said word' quote, pieces.cons related (pieces.refl _)⟩

/-- Behind the five tokens that open a load its goal is left. -/
theorem Derives.reaches {taken : List Token} {statement : Statement} (derived : spelling.Derives taken statement)
    (isLoad : ∃ load, statement = .loadData load) : ∃ table, spelling.Goal (taken.drop 5) table := by
  obtain ⟨load, same⟩ := isLoad
  cases derived with
  | load _ _ _ _ _ reaches => exact ⟨_, reaches⟩
  | createTable | createUdf => cases same

/-- A derivation is carried over if the goal of a load is. -/
theorem Derives.carried (pieces : Piecewise R) (carried : CarriedTo R spelling other) {taken : List Token}
    {statement : Statement} (derived : spelling.Derives taken statement)
    (goal : (∃ load, statement = .loadData load) → ∀ table, spelling.Goal (taken.drop 5) table →
      ∃ goal', other.Goal goal' table ∧ R (taken.drop 5) goal') :
    ∃ taken', other.Derives taken' statement ∧ R taken taken' := by
  cases derived with
  | createTable creates ofTable said named declared =>
    obtain ⟨create', creates', relatedCreate⟩ := carried.word creates
    obtain ⟨kind', ofTable', relatedKind⟩ := carried.word ofTable
    obtain ⟨columns', declared', relatedColumns⟩ := carried_columns pieces carried _ _ declared
    exact ⟨_, .createTable creates' ofTable' said named declared', pieces.cons relatedCreate
      (pieces.cons relatedKind (pieces.append (pieces.refl _) (pieces.append (pieces.refl _) relatedColumns)))⟩
  | createUdf quote creates ofUdf said input declaredInputs output declaredOutputs purposed implements lies =>
    obtain ⟨create', creates', relatedCreate⟩ := carried.word creates
    obtain ⟨kind', ofUdf', relatedKind⟩ := carried.word ofUdf
    obtain ⟨before', input', relatedInput⟩ := carried.word input
    obtain ⟨ins', declaredInputs', relatedIns⟩ := carried_columns pieces carried _ _ declaredInputs
    obtain ⟨between', output', relatedOutput⟩ := carried.word output
    obtain ⟨outs', declaredOutputs', relatedOuts⟩ := carried_columns pieces carried _ _ declaredOutputs
    obtain ⟨purpose', purposed', relatedPurpose⟩ := carried_purpose pieces carried _ _ purposed
    obtain ⟨impl', implements', relatedImpl⟩ := carried.word implements
    obtain ⟨path', lies', relatedPath⟩ := carried.path lies
    exact ⟨_, .createUdf quote creates' ofUdf' said input' declaredInputs' output' declaredOutputs' purposed'
      implements' lies', pieces.cons relatedCreate (pieces.cons relatedKind (pieces.append (pieces.refl _)
        (pieces.cons (pieces.refl _) (pieces.cons relatedInput (pieces.append relatedIns
          (pieces.cons relatedOutput (pieces.append relatedOuts (pieces.append relatedPurpose
            (pieces.cons relatedImpl relatedPath)))))))))⟩
  | load loads ofData fromFile lies goes reaches =>
    obtain ⟨load', loads', relatedLoad⟩ := carried.word loads
    obtain ⟨data', ofData', relatedData⟩ := carried.word ofData
    obtain ⟨infile', fromFile', relatedInfile⟩ := carried.word fromFile
    obtain ⟨path', lies', relatedPath⟩ := carried.path lies
    obtain ⟨into', goes', relatedInto⟩ := carried.word goes
    obtain ⟨goal', reaches', relatedGoal⟩ := goal ⟨_, rfl⟩ _ reaches
    exact ⟨_, .load loads' ofData' fromFile' lies' goes' reaches', pieces.cons relatedLoad
      (pieces.cons relatedData (pieces.cons relatedInfile (pieces.cons relatedPath
        (pieces.cons relatedInto relatedGoal))))⟩

end Spelling

/-! ## From what is documented to what is read -/

theorem piecewise_eq : Piecewise Eq where
  refl _ := rfl
  append := by
    rintro _ _ _ _ rfl rfl
    rfl

/-- What is documented is also read. -/
theorem documented_carriedTo_asRead : Spelling.CarriedTo Eq documented asRead where
  word := by
    rintro name _ ⟨value, rfl, upper⟩
    exact ⟨_, asRead_word_iff.mpr ⟨value, none, rfl, upper⟩, rfl⟩
  modifiers := by
    intro sizes modifiers
    refine ⟨sizes, ?_, rfl⟩
    rcases modifiers with ⟨size, long, rfl⟩ | ⟨precision, long, scale, long', rfl⟩
    · exact List.forall_mem_singleton.mpr (.inr ⟨size, long, rfl⟩)
    · intro token member
      rcases List.mem_cons.mp member with rfl | member
      · exact .inr ⟨precision, long, rfl⟩
      · rcases List.mem_pair.mp member with rfl | rfl
        · exact .inl rfl
        · exact .inr ⟨scale, long', rfl⟩
  path := by
    rintro _ value ⟨style, known, rfl⟩
    have read : stringOf? (.string style value) = some value := by
      rcases List.mem_cons.mp known with rfl | known
      · rfl
      · rcases List.mem_pair.mp known with rfl | rfl <;> rfl
    exact ⟨_, read, rfl⟩

/-- A file is to go to a table whose name starts with the word TABLE in quotes. -/
def NamesTableInQuotes (statement : Statement) (taken : List Token) : Prop :=
  (∃ load, statement = .loadData load) ∧
    ∃ value quote, taken[5]? = some (.word value (some quote)) ∧ Text.asciiUppercase value = "TABLE"

theorem goal_asRead {goal : List Token} {table : Sql.ObjectName} (reaches : documented.Goal goal table)
    (named : ∀ value quote, goal.head? = some (.word value (some quote)) → Text.asciiUppercase value ≠ "TABLE") :
    asRead.Goal goal table := by
  cases reaches with
  | name noTable table =>
    refine .name ?_ table
    intro word
    obtain ⟨value, quote, rfl, upper⟩ := asRead_word_iff.mp word
    cases quote with
    | none => exact noTable ⟨value, rfl, upper⟩
    | some quote => exact named value quote rfl upper
  | table ofTable table =>
    obtain ⟨value, rfl, upper⟩ := ofTable
    exact .table (asRead_word_iff.mpr ⟨value, none, rfl, upper⟩) table

theorem not_goal_asRead {goal : List Token} {table table' : Sql.ObjectName} {value : String} {quote : Char}
    (reaches : documented.Goal goal table) (first : goal.head? = some (.word value (some quote)))
    (upper : Text.asciiUppercase value = "TABLE") : ¬ asRead.Goal goal table' := by
  have word : asRead.word "TABLE" (.word value (some quote)) := asRead_word_iff.mpr ⟨value, some quote, rfl, upper⟩
  cases reaches with
  | table ofTable _ =>
    obtain ⟨value', rfl, -⟩ := ofTable
    cases first
  | @name token more _ _ named =>
    cases first
    obtain ⟨_, part, more, same, -, behind⟩ := named.eq_cons
    obtain ⟨rfl, rfl⟩ := List.cons.inj same
    intro reaches'
    cases reaches' with
    | name noTable _ => exact noTable word
    | table _ named' =>
      -- the name goes on with a point, or not at all, but another name starts with neither
      obtain ⟨first, part, others, rfl, isPart, -⟩ := named'.eq_cons
      rcases behind with none | point
      · cases none
      · cases point
        cases isPart

/-! ## From what is read to what is documented -/

/-- Tokens that are documented, and tokens that are read for them: a word in quotes, any sizes, and a path
without quotes. -/
inductive Liberty : List Token → List Token → Prop
  | quoted (value : String) (quote : Char) : Liberty [.word value none] [.word value (some quote)]
  | sized {sizes sizes' : List Token} (strict : documented.modifiers sizes)
      (undocumented : ¬ documented.modifiers sizes') (loose : asRead.modifiers sizes') :
      Liberty (.leftParen :: sizes ++ [.rightParen]) (.leftParen :: sizes' ++ [.rightParen])
  | unquoted {value : String} {quote : Option Char} (loose : asRead.path (.word value quote) value) :
      Liberty [.string .plain value] [.word value quote]

/-- Tokens that differ only by liberties. -/
inductive Loosened : List Token → List Token → Prop
  | nil : Loosened [] []
  | same (token : Token) {strict loose : List Token} (others : Loosened strict loose) :
      Loosened (token :: strict) (token :: loose)
  | liberty {strict loose strict' loose' : List Token} (taken : Liberty strict loose)
      (others : Loosened strict' loose') : Loosened (strict ++ strict') (loose ++ loose')

theorem piecewise_loosened : Piecewise (fun loose strict => Loosened strict loose) where
  refl taken := by
    induction taken with
    | nil => exact .nil
    | cons token taken ih => exact .same token ih
  append := by
    intro loose strict loose' strict' first second
    induction first with
    | nil => exact second
    | same token _ ih => exact .same token ih
    | liberty taken _ ih =>
      rw [List.append_assoc, List.append_assoc]
      exact .liberty taken ih

theorem Liberty.loosened {strict loose : List Token} (taken : Liberty strict loose) : Loosened strict loose := by
  have one := Loosened.liberty taken .nil
  rwa [List.append_nil, List.append_nil] at one

/-- What is read is documented up to liberties. -/
theorem asRead_carriedTo_documented :
    Spelling.CarriedTo (fun loose strict => Loosened strict loose) asRead documented where
  word := by
    intro name token word
    obtain ⟨value, quote, rfl, upper⟩ := asRead_word_iff.mp word
    refine ⟨.word value none, ⟨value, rfl, upper⟩, ?_⟩
    cases quote with
    | none => exact piecewise_loosened.refl _
    | some quote => exact (Liberty.quoted value quote).loosened
  modifiers := by
    intro sizes loose
    by_cases strict : documented.modifiers sizes
    · exact ⟨sizes, strict, piecewise_loosened.refl _⟩
    · -- a type does not keep its sizes, so any documented ones stand for these
      have one : documented.modifiers [.number "1" false] := .inl ⟨"1", false, rfl⟩
      exact ⟨_, one, (Liberty.sized one strict loose).loosened⟩
  path := by
    intro token value loose
    cases token with
    | word text quote =>
      have same : text = value := by
        have meant : (if (Token.word text quote).isReserved then none else some text) = some value := loose
        split at meant
        · cases meant
        · exact Option.some.inj meant
      subst same
      exact ⟨_, ⟨.plain, by simp, rfl⟩, (Liberty.unquoted loose).loosened⟩
    | string style text =>
      cases style with
      | plain | escaped | unicode =>
        cases loose
        exact ⟨_, ⟨_, by simp, rfl⟩, piecewise_loosened.refl _⟩
      | _ => cases loose
    | _ => cases loose

/-! ## Main statement -/

theorem asRead_derives_iff {taken rest : List Token} {statement : Statement} (ends : Ends statement rest) :
    ReadAs (taken ++ rest) statement rest ↔ asRead.Derives taken statement := by
  rw [readAs_iff_derives]
  constructor
  · rintro ⟨taken', same, derived, -⟩
    rwa [List.append_cancel_right same]
  · intro derived
    exact ⟨taken, rfl, derived, ends⟩

/-- What is documented is read as it is, but for a table name in quotes that counts as the word TABLE. -/
theorem asRead_derives_iff_of_documented {taken : List Token} {statement : Statement}
    (derived : documented.Derives taken statement) :
    asRead.Derives taken statement ↔ ¬ NamesTableInQuotes statement taken := by
  constructor
  · rintro derived' ⟨isLoad, value, quote, first, upper⟩
    obtain ⟨table, reaches⟩ := derived.reaches isLoad
    obtain ⟨table', reaches'⟩ := derived'.reaches isLoad
    -- the sixth token is the first of the goal
    rw [← List.head?_drop] at first
    exact not_goal_asRead reaches first upper reaches'
  · intro named
    have goal (isLoad : ∃ load, statement = .loadData load) (table : Sql.ObjectName)
        (reaches : documented.Goal (taken.drop 5) table) :
        ∃ goal', asRead.Goal goal' table ∧ taken.drop 5 = goal' := by
      refine ⟨_, goal_asRead reaches fun value quote first upper => named ⟨isLoad, value, quote, ?_, upper⟩, rfl⟩
      rwa [← List.head?_drop]
    obtain ⟨taken', derived', rfl⟩ := derived.carried piecewise_eq documented_carriedTo_asRead goal
    exact derived'

/-- A word of the grammar is one of its words in quotes too, so a name that does not start with the word TABLE
in any spelling does not start with it where it is documented. -/
theorem goal_documented {goal : List Token} {table : Sql.ObjectName} (reaches : asRead.Goal goal table) :
    ∃ goal', documented.Goal goal' table ∧ Loosened goal' goal := by
  cases reaches with
  | @name first more _ noTable named =>
    refine ⟨first :: more, .name ?_ named, piecewise_loosened.refl _⟩
    rintro ⟨value, rfl, upper⟩
    exact noTable (asRead_word_iff.mpr ⟨value, none, rfl, upper⟩)
  | table ofTable named =>
    obtain ⟨kind', ofTable', related⟩ := asRead_carriedTo_documented.word ofTable
    exact ⟨_, .table ofTable' named, piecewise_loosened.cons related (piecewise_loosened.refl _)⟩

/-- What is read for a statement is a documented text of it, up to liberties. -/
theorem documented_of_asRead {taken : List Token} {statement : Statement}
    (derived : asRead.Derives taken statement) :
    ∃ strict, documented.Derives strict statement ∧ Loosened strict taken :=
  derived.carried piecewise_loosened asRead_carriedTo_documented fun _ _ => goal_documented

/-- Declarations are read exactly by the grammar, where words of the grammar also count in quotes, all numbers
and commas are sizes, and a word may be a path. So each declaration that is read stands for a documented text
of the same statement, from which it differs by such liberties alone. And each documented declaration is read
as the statement that it derives, up to where it ends, unless it is to load a file into a table whose name
starts with the word TABLE in quotes. -/
theorem declarations_read_as_documented (statement : Statement) :
    (∀ tokens rest, ReadAs tokens statement rest ↔
      ∃ taken, tokens = taken ++ rest ∧ asRead.Derives taken statement ∧ Ends statement rest) ∧
    (∀ taken rest, ReadAs (taken ++ rest) statement rest →
      ∃ strict, documented.Derives strict statement ∧ Loosened strict taken) ∧
    (∀ taken rest, documented.Derives taken statement → Ends statement rest →
      (ReadAs (taken ++ rest) statement rest ↔ ¬ NamesTableInQuotes statement taken)) := by
  refine ⟨fun tokens rest => readAs_iff_derives, fun taken rest read => ?_, fun taken rest derived ends => ?_⟩
  · obtain ⟨taken', same, derived, -⟩ := readAs_iff_derives.mp read
    rw [List.append_cancel_right same]
    exact documented_of_asRead derived
  · rw [asRead_derives_iff ends]
    exact asRead_derives_iff_of_documented derived

/-- A file may be loaded into the table `table` if the word TABLE stands before it, and the path may be a word,
but that is a liberty. -/
theorem declarations_read_as_documented_table :
    let statement := Statement.loadData { table := { table := "table" }, path := "clip" }
    let written (path : Token) : List Token :=
      [.word "LOAD" none, .word "data" none, .word "INFILE" none, path, .word "INTO" none,
        .word "TABLE" none, .word "table" (some '"')]
    (documented.Derives (written (.string .plain "clip")) statement ∧ Ends statement [.semicolon] ∧
      ReadAs (written (.string .plain "clip") ++ [.semicolon]) statement [.semicolon]) ∧
    ReadAs (written (.word "clip" none) ++ [.semicolon]) statement [.semicolon] ∧
    ∃ strict, documented.Derives strict statement ∧ Loosened strict (written (.word "clip" none)) := by
  intro statement written
  have word (name : String) (upper : Text.asciiUppercase name = name) : documented.word name (.word name none) :=
    ⟨name, rfl, upper⟩
  have named : TableName [.word "table" (some '"')] [⟨"table", some '"'⟩] := .one ⟨_, rfl, rfl⟩
  have derived : documented.Derives (written (.string .plain "clip")) statement :=
    .load (word "LOAD" (by decide +kernel)) ⟨"data", rfl, by decide +kernel⟩ (word "INFILE" (by decide +kernel))
      ⟨.plain, by simp, rfl⟩ (word "INTO" (by decide +kernel)) (.table (word "TABLE" (by decide +kernel)) named)
  have ends : Ends statement [.semicolon] := fun _ _ => nofun
  have noName : ¬ NamesTableInQuotes statement (written (.string .plain "clip")) := by
    rintro ⟨-, value, quote, first, -⟩
    cases first
  have said (name value : String) (quote : Option Char) (upper : Text.asciiUppercase value = name) :
      asRead.word name (.word value quote) := asRead_word_iff.mpr ⟨value, quote, rfl, upper⟩
  have path : stringOf? (.word "clip" none) = some "clip" := by decide +kernel
  have loose : ReadAs (written (.word "clip" none) ++ [.semicolon]) statement [.semicolon] :=
    readAs_iff_derives.mpr ⟨_, rfl, .load (said "LOAD" _ _ (by decide +kernel)) (said "DATA" _ _ (by decide +kernel))
      (said "INFILE" _ _ (by decide +kernel)) path (said "INTO" _ _ (by decide +kernel))
      (.table (said "TABLE" _ _ (by decide +kernel)) named), ends⟩
  have all := declarations_read_as_documented statement
  exact ⟨⟨derived, ends, (all.2.2 _ _ derived ends).mpr noName⟩, loose, all.2.1 _ _ loose⟩

/-- A documented text that is not read: the name of the table is taken for the word TABLE, and behind it no
name is left. -/
theorem table_in_quotes_not_read :
    let tokens : List Token :=
      [.word "LOAD" none, .word "DATA" none, .word "INFILE" none, .string .plain "p", .word "INTO" none,
        .word "table" (some '"')]
    let statement := Statement.loadData { table := { table := "table" }, path := "p" }
    Token.scan? "LOAD DATA INFILE 'p' INTO \"table\"" = some tokens ∧
      documented.Derives tokens statement ∧ Ends statement [] ∧
      ∀ statement' rest, ¬ ReadAs tokens statement' rest := by
  intro tokens statement
  have word (name : String) (upper : Text.asciiUppercase name = name) : documented.word name (.word name none) :=
    ⟨name, rfl, upper⟩
  have noTable : ¬ documented.word "TABLE" (.word "table" (some '"')) := by
    rintro ⟨value, same, -⟩
    cases same
  have named : TableName [.word "table" (some '"')] [⟨"table", some '"'⟩] := .one ⟨_, rfl, rfl⟩
  have derived : documented.Derives tokens statement :=
    .load (word "LOAD" (by decide +kernel)) (word "DATA" (by decide +kernel)) (word "INFILE" (by decide +kernel))
      ⟨.plain, by simp, rfl⟩ (word "INTO" (by decide +kernel)) (.name noTable named)
  have opens : opening? tokens = some (Statement.loadData <$> loadBehind, tokens.drop 2) := by rfl
  refine ⟨by decide +kernel, derived, fun _ _ => nofun, ?_⟩
  rintro statement' rest ⟨reader, behind, opens', read⟩
  obtain ⟨rfl, rfl⟩ := Prod.mk.inj (Option.some.inj (opens.symm.trans opens'))
  obtain ⟨load, readLoad, rfl⟩ := read_map_iff.mp read
  obtain ⟨_, _, _, goal, table, same, -, -, -, reaches, -⟩ := read_loadBehind_iff.mp readLoad
  cases reaches with
  | @name first _ _ noTable _ =>
    have start : some (Token.word "table" (some '"')) = some first := congrArg (·[3]?) same
    cases start
    exact noTable (asRead_word_iff.mpr ⟨"table", some '"', rfl, by decide +kernel⟩)
  | table _ named =>
    obtain ⟨_, _, _, rfl, -⟩ := named.eq_cons
    cases same

end VideoPlan.Declaration
