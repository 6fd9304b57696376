import VideoPlan.Proofs.Statement.Grammar

/-!
# Declarations are read by their grammar

Each reader of declarations recognizes its part of the grammar in the spelling that is read, by the words,
the types, the columns and then the statements; all of it is `readAs_iff_derives`. A name goes on as long as
points follow, so a statement that ends with one ends before another token (`Ends`). Everything else is
decided by the tokens that are taken.
-/

namespace VideoPlan.Declaration

open Sql (Token Reader)
open Sql.Reader

/-- Where a statement may end: one that ends with a name has all of that name, so no point follows. -/
def Ends (statement : Statement) (rest : List Token) : Prop :=
  ∀ load, statement = .loadData load → rest.head? ≠ some .period

/-- The tokens open a declaration, which is read as the statement up to `rest`. -/
def ReadAs (tokens : List Token) (statement : Statement) (rest : List Token) : Prop :=
  ∃ reader behind, opening? tokens = some (reader, behind) ∧ reader behind = .ok (statement, rest)

/-! ## Words -/

theorem asRead_word_iff {name : String} {token : Token} :
    asRead.word name token ↔ ∃ value quote, token = .word value quote ∧ Text.asciiUppercase value = name := by
  constructor
  · intro word
    cases token with
    | word value quote => exact ⟨value, quote, rfl, Option.some.inj word⟩
    | _ => cases word
  · rintro ⟨value, quote, rfl, rfl⟩
    rfl

theorem read_acceptWord_iff {name : String} {tokens rest : List Token} {found : Bool} :
    acceptWord name tokens = .ok (found, rest) ↔
      (found = true ∧ ∃ token, tokens = token :: rest ∧ asRead.word name token) ∨
        found = false ∧ (∀ token ∈ tokens.head?, ¬ asRead.word name token) ∧ tokens = rest := by
  cases tokens with
  | nil => simp [acceptWord, eq_comm]
  | cons token tokens =>
    unfold acceptWord asRead
    by_cases same : word? token = some name
    · simp [same, eq_comm]
    · simp [same, Ne.symm same, eq_comm]

theorem read_expectWord_iff {name : String} {tokens rest : List Token} :
    expectWord name tokens = .ok ((), rest) ↔ ∃ token, tokens = token :: rest ∧ asRead.word name token := by
  unfold expectWord
  rw [read_bind_iff]
  constructor
  · rintro ⟨found, between, accepted, answered⟩
    rcases read_acceptWord_iff.mp accepted with ⟨rfl, token, rfl, word⟩ | ⟨rfl, -, rfl⟩
    · cases answered
      exact ⟨token, rfl, word⟩
    · cases answered
  · rintro ⟨token, rfl, word⟩
    exact ⟨true, rest, read_acceptWord_iff.mpr (.inl ⟨rfl, token, rfl, word⟩), rfl⟩

theorem read_name_iff {tokens rest : List Token} {value : String} :
    name tokens = .ok (value, rest) ↔ ∃ quote, tokens = .word value quote :: rest := by
  constructor
  · intro read
    cases tokens with
    | nil => cases read
    | cons token tokens =>
      cases token with
      | word value quote =>
        cases read
        exact ⟨quote, rfl⟩
      | _ => cases read
  · rintro ⟨quote, rfl⟩
    rfl

/-! Words of the grammar are told apart from the words IF NOT EXISTS and NOT NULL, which are looked up in all of
Unicode. -/

theorem lt_of_toUpper_lt {c : Char} (ascii : c.toUpper.toNat < 128) : c.toNat < 128 := by
  unfold Char.toUpper at ascii
  split at ascii
  · rename_i lower
    have small : c.toNat ≤ 'z'.toNat := lower.2
    exact Nat.lt_of_le_of_lt small (by decide)
  · exact ascii

/-- Where the letters a to z give a text in ASCII, the other letters have no case to look at. -/
theorem uppercase_of_asciiUppercase {value name : String} (upper : Text.asciiUppercase value = name)
    (ascii : name.toList.all (·.toNat < 128) = true) : Text.uppercase value = name := by
  have chars : value.toList.map Char.toUpper = name.toList := by
    rw [← upper, Text.asciiUppercase, String.toList_ofList]
  have each : ∀ c ∈ value.toList, Text.upperChar c = [c.toUpper] := by
    intro c member
    have small := List.all_eq_true.mp ascii c.toUpper (chars ▸ List.mem_map_of_mem member)
    exact if_pos (lt_of_toUpper_lt (of_decide_eq_true small))
  rw [← upper, Text.uppercase, Text.asciiUppercase, List.flatMap_congr each]
  exact congrArg String.ofList (List.flatMap_pure_eq_map _ _)

/-- A word of declarations in any case is not another word of SQL. -/
theorem not_isKeyword_of_word {name other : String} {token : Token} (word : asRead.word name token)
    (ascii : name.toList.all (·.toNat < 128) = true) (different : name ≠ other) : ¬ token.isKeyword other = true := by
  obtain ⟨value, quote, rfl, upper⟩ := asRead_word_iff.mp word
  cases quote with
  | none => simpa [Token.isKeyword, Token.keyword?, uppercase_of_asciiUppercase upper ascii] using different
  | some quote => exact Bool.false_ne_true

/-- Behind an item of a list no word follows. -/
theorem afterKeywords?_of_closes {rest : List Token} (closes : Closes rest) (name : String)
    (names : List String) : afterKeywords? (name :: names) rest = none := by
  obtain ⟨tail, rfl | rfl⟩ := closes <;> rfl

/-- Words are not there if the second token is not the second of them. -/
theorem afterKeywords?_of_second {first second : String} {names : List String} {token next : Token}
    (other : ¬ next.isKeyword second = true) (rest : List Token) :
    afterKeywords? (first :: second :: names) (token :: next :: rest) = none := by
  unfold afterKeywords?
  split
  · exact if_neg other
  · rfl

/-! ## Types of columns -/

/-- The dimension that a token is. -/
def dimensionOf? : Token → Option (Option Nat)
  | .number digits _ => (size? digits).map some
  | token => if word? token = some "ANYDIM" then some none else none

theorem dimensionOf?_eq_some_iff {token : Token} {size : Option Nat} :
    dimensionOf? token = some size ↔ asRead.Dimension token size := by
  constructor
  · intro meant
    unfold dimensionOf? at meant
    split at meant
    · obtain ⟨size, fits, rfl⟩ := Option.map_eq_some_iff.mp meant
      exact .bounded _ fits
    · split at meant
      · rename_i word
        cases meant
        exact .any word
      · cases meant
  · rintro (⟨long, fits⟩ | word)
    · exact Option.map_eq_some_iff.mpr ⟨_, fits, rfl⟩
    · cases token with
      | word value quote => exact if_pos word
      | _ => cases word

theorem read_dimension_iff {tokens rest : List Token} {size : Option Nat} :
    dimension tokens = .ok (size, rest) ↔ ∃ token, tokens = token :: rest ∧ asRead.Dimension token size := by
  simp only [← dimensionOf?_eq_some_iff]
  refine read_single_iff rfl fun token rest => ?_
  unfold dimension
  rw [bind_of_ok (read_get _)]
  cases token with
  | number digits long =>
    dsimp only [dimensionOf?]
    rw [bind_of_ok (read_set _ _)]
    cases size? digits <;> rfl
  | word value quote =>
    dsimp only [dimensionOf?]
    split <;> rfl
  | _ => rfl

theorem read_skipModifiers_iff {tokens rest : List Token} {x : Unit} :
    skipModifiers tokens = .ok (x, rest) ↔
      ∃ sizes, tokens = sizes ++ .rightParen :: rest ∧ asRead.modifiers sizes := by
  constructor
  · intro read
    -- each step takes a number or a comma, and the last one the closing parenthesis
    fun_induction skipModifiers tokens with
    | case1 tokens =>
      cases read
      exact ⟨[], rfl, nofun⟩
    | case2 digits long tokens ih =>
      obtain ⟨sizes, rfl, modifiers⟩ := ih read
      exact ⟨_ :: sizes, rfl, List.forall_mem_cons.mpr ⟨.inr ⟨digits, long, rfl⟩, modifiers⟩⟩
    | case3 tokens ih =>
      obtain ⟨sizes, rfl, modifiers⟩ := ih read
      exact ⟨_ :: sizes, rfl, List.forall_mem_cons.mpr ⟨.inl rfl, modifiers⟩⟩
    | case4 => cases read
  · rintro ⟨sizes, rfl, modifiers⟩
    induction sizes with
    | nil => rfl
    | cons token sizes ih =>
      obtain ⟨first, others⟩ := List.forall_mem_cons.mp modifiers
      rcases first with rfl | ⟨digits, long, rfl⟩
      · exact ih others
      · exact ih others

theorem read_optionalModifiers_iff {tokens rest : List Token} {x : Unit} :
    optionalModifiers tokens = .ok (x, rest) ↔
      (∃ sizes, tokens = .leftParen :: sizes ++ .rightParen :: rest ∧ asRead.modifiers sizes) ∨
        tokens.head? ≠ some .leftParen ∧ tokens = rest := by
  unfold optionalModifiers
  rw [read_bind_iff]
  constructor
  · rintro ⟨found, between, accepted, answered⟩
    rcases read_accept_iff.mp accepted with ⟨rfl, rfl⟩ | ⟨rfl, other, rfl⟩
    · obtain ⟨sizes, rfl, modifiers⟩ := read_skipModifiers_iff.mp answered
      exact .inl ⟨sizes, rfl, modifiers⟩
    · obtain ⟨-, rfl⟩ := read_pure_iff.mp answered
      exact .inr ⟨other, rfl⟩
  · rintro (⟨sizes, rfl, modifiers⟩ | ⟨other, rfl⟩)
    · exact ⟨true, _, read_accept_iff.mpr (.inl ⟨rfl, rfl⟩),
        read_skipModifiers_iff.mpr ⟨sizes, rfl, modifiers⟩⟩
    · exact ⟨false, _, read_accept_iff.mpr (.inr ⟨rfl, other, rfl⟩), rfl⟩

theorem recognizes_dimensions :
    Recognizes (inParens (commaSeparated dimension))
      (Enclosed (Separated .comma (Single asRead.Dimension))) fun _ => True :=
  have item := Recognizes.single read_dimension_iff fun _ => True
  (item.separatedBy .comma fun _ => trivial).inParens (fun _ => ⟨trivial, nofun⟩) _

theorem read_optionalDimensions_iff {tokens rest : List Token} {dimensions : List (Option Nat)} :
    optionalDimensions tokens = .ok (dimensions, rest) ↔
      (∃ taken, tokens = taken ++ rest ∧
          Enclosed (Separated .comma (Single asRead.Dimension)) taken dimensions) ∨
        tokens.head? ≠ some .leftParen ∧ dimensions = [] ∧ tokens = rest := by
  unfold optionalDimensions
  rw [bind_of_ok (read_peek? 0 tokens), ← List.head?_eq_getElem?]
  by_cases opening : tokens.head? = some .leftParen
  · rw [if_pos opening]
    constructor
    · intro read
      exact .inl (recognizes_dimensions.sound read)
    · rintro (⟨taken, rfl, derived⟩ | ⟨other, -⟩)
      · exact recognizes_dimensions.complete derived trivial
      · exact absurd opening other
  · rw [if_neg opening, read_pure_iff]
    constructor
    · rintro ⟨rfl, rfl⟩
      exact .inr ⟨opening, rfl, rfl⟩
    · rintro (⟨taken, rfl, inner, rfl, -⟩ | ⟨-, rfl, rfl⟩)
      · exact absurd rfl opening
      · exact ⟨rfl, rfl⟩

/-- Reads the type of a column behind its first word. -/
def typeBehind (word : String) : Reader DataType :=
  match scalar? word with
  | some base =>
    if takesModifiers base then do
      optionalModifiers
      return { base }
    else return { base }
  | none => if word = "NDARRAY" then arrayType else throw (.unknownColumnType word)

theorem columnType_word (value : String) (quote : Option Char) (rest : List Token) :
    columnType (.word value quote :: rest) = typeBehind (Text.asciiUppercase value) rest := by
  unfold columnType
  rw [bind_of_ok (read_name_iff.mpr ⟨quote, rfl⟩)]
  generalize Text.asciiUppercase value = word
  unfold typeBehind scalar?
  split
  case h_14 => simp_all
  all_goals rfl

theorem read_arrayType_iff {tokens rest : List Token} {type : DataType} :
    arrayType tokens = .ok (type, rest) ↔
      ∃ element name dimensions between, tokens = element :: between ∧ asRead.word name element ∧
        (∃ known, ElementType.ofKeyword? name = some known ∧
          type = { base := .ndArray, element := some known, dimensions }) ∧
        optionalDimensions between = .ok (dimensions, rest) := by
  unfold arrayType
  simp only [read_bind_iff, read_name_iff]
  constructor
  · rintro ⟨value, between, ⟨quote, rfl⟩, read⟩
    cases known : ElementType.ofName? value with
    | none =>
      rw [known] at read
      cases read
    | some element =>
      rw [known] at read
      obtain ⟨dimensions, _, sized, answered⟩ := read_bind_iff.mp read
      obtain ⟨rfl, rfl⟩ := read_pure_iff.mp answered
      exact ⟨_, _, dimensions, between, rfl, rfl, ⟨element, known, rfl⟩, sized⟩
  · rintro ⟨element, name, dimensions, between, rfl, word, ⟨known, named, rfl⟩, sized⟩
    obtain ⟨value, quote, rfl, rfl⟩ := asRead_word_iff.mp word
    refine ⟨value, between, ⟨quote, rfl⟩, ?_⟩
    rw [ElementType.ofName?, named]
    exact read_bind_iff.mpr ⟨dimensions, rest, sized, rfl⟩

/-- A scalar type takes its sizes with it, and an array its dimensions. -/
theorem recognizes_columnType :
    Recognizes columnType asRead.Typing fun rest => rest.head? ≠ some .leftParen where
  sound {tokens type rest} read := by
    obtain ⟨value, behind, first, -⟩ := read_bind_iff.mp read
    obtain ⟨quote, rfl⟩ := read_name_iff.mp first
    have word : asRead.word (Text.asciiUppercase value) (.word value quote) := rfl
    -- the first word decides: a scalar type, perhaps with sizes, or an array
    rw [columnType_word] at read
    unfold typeBehind at read
    cases scalar : scalar? (Text.asciiUppercase value) with
    | some base =>
      rw [scalar] at read
      dsimp only at read
      split at read
      · rename_i takes
        obtain ⟨_, between, sized, answered⟩ := read_bind_iff.mp read
        obtain ⟨rfl, rfl⟩ := read_pure_iff.mp answered
        rcases read_optionalModifiers_iff.mp sized with ⟨sizes, rfl, modifiers⟩ | ⟨-, rfl⟩
        · exact ⟨_, by simp, .sized word scalar takes modifiers⟩
        · exact ⟨[_], rfl, .scalar word scalar⟩
      · obtain ⟨rfl, rfl⟩ := read_pure_iff.mp read
        exact ⟨[_], rfl, .scalar word scalar⟩
    | none =>
      rw [scalar] at read
      dsimp only at read
      split at read
      · rename_i array
        rw [array] at word
        obtain ⟨element, name, dimensions, between, rfl, elementWord, ⟨known, named, rfl⟩, sized⟩ :=
          read_arrayType_iff.mp read
        rcases read_optionalDimensions_iff.mp sized with ⟨taken, rfl, sizes⟩ | ⟨-, rfl, rfl⟩
        · exact ⟨_, by simp, .dimensioned word elementWord named sizes⟩
        · exact ⟨[_, _], rfl, .array word elementWord named⟩
      · cases read
  complete {taken type} derived rest follows := by
    cases derived with
    | @scalar token name base word named =>
      obtain ⟨value, quote, rfl, rfl⟩ := asRead_word_iff.mp word
      rw [List.singleton_append, columnType_word, typeBehind, named]
      dsimp only
      split
      · exact read_bind_iff.mpr ⟨(), rest, read_optionalModifiers_iff.mpr (.inr ⟨follows, rfl⟩), rfl⟩
      · rfl
    | @sized token name base sizes word named takes modifiers =>
      obtain ⟨value, quote, rfl, rfl⟩ := asRead_word_iff.mp word
      rw [List.append_assoc, List.cons_append, columnType_word, typeBehind, named]
      dsimp only
      rw [if_pos takes]
      exact read_bind_iff.mpr ⟨(), rest, read_optionalModifiers_iff.mpr (.inl ⟨sizes, by simp, modifiers⟩), rfl⟩
    | @array token element name type word elementWord named =>
      obtain ⟨value, quote, rfl, upper⟩ := asRead_word_iff.mp word
      rw [List.cons_append, columnType_word, upper]
      have sized := read_optionalDimensions_iff.mpr (.inr ⟨follows, rfl, rfl⟩)
      exact read_arrayType_iff.mpr ⟨_, _, _, _, rfl, elementWord, ⟨type, named, rfl⟩, sized⟩
    | @dimensioned token element name type taken dimensions word elementWord named sizes =>
      obtain ⟨value, quote, rfl, upper⟩ := asRead_word_iff.mp word
      rw [List.cons_append, columnType_word, upper]
      have sized := read_optionalDimensions_iff.mpr (.inl ⟨taken, Eq.refl (taken ++ rest), sizes⟩)
      exact read_arrayType_iff.mpr ⟨_, _, _, _, rfl, elementWord, ⟨type, named, rfl⟩, sized⟩

/-! ## Columns -/

theorem recognizes_nullability : Recognizes nullability Nullability Closes where
  sound {tokens nullable rest} read := by
    obtain ⟨notNull, between, accepted, behind⟩ := read_bind_iff.mp read
    rcases read_acceptKeywords_iff.mp accepted with ⟨rfl, taken, rfl, said⟩ | ⟨rfl, -, rfl⟩
    · obtain ⟨rfl, rfl⟩ := read_pure_iff.mp behind
      exact ⟨taken, rfl, .notNull said⟩
    · obtain ⟨null, between, acceptedNull, answered⟩ := read_bind_iff.mp behind
      obtain ⟨rfl, rfl⟩ := read_pure_iff.mp answered
      rcases read_acceptKeywords_iff.mp acceptedNull with ⟨rfl, taken, rfl, said⟩ | ⟨rfl, -, rfl⟩
      · exact ⟨taken, rfl, .null said⟩
      · exact ⟨[], rfl, .unsaid⟩
  complete {taken nullable} derived rest follows := by
    cases derived with
    | unsaid =>
      have notNull := read_acceptKeywords_iff.mpr
        (.inr ⟨rfl, afterKeywords?_of_closes follows "NOT" ["NULL"], rfl⟩)
      have null := read_acceptKeywords_iff.mpr
        (.inr ⟨rfl, afterKeywords?_of_closes follows "NULL" [], rfl⟩)
      exact read_bind_iff.mpr ⟨false, rest, notNull, read_bind_iff.mpr ⟨false, rest, null, rfl⟩⟩
    | null said =>
      -- NULL alone is not the start of NOT NULL
      obtain ⟨token, word, rfl⟩ : ∃ token, token.isKeyword "NULL" = true ∧ taken = [token] := by
        cases said with
        | cons word none =>
          cases none
          exact ⟨_, word, rfl⟩
      have other : afterKeywords? ["NOT", "NULL"] (token :: rest) = none :=
        afterKeywords?_of_isKeyword word (by decide) ["NULL"] rest
      have notNull := read_acceptKeywords_iff.mpr (.inr ⟨rfl, other, rfl⟩)
      exact read_bind_iff.mpr ⟨false, _, notNull, read_bind_iff.mpr ⟨true, rest, said.accepted rest, rfl⟩⟩
    | notNull said => exact read_bind_iff.mpr ⟨true, rest, said.accepted rest, rfl⟩

/-- What is said about null opens no parenthesis. -/
theorem Nullability.head? {nulls rest : List Token} {nullable : Bool} (said : Nullability nulls nullable)
    (closes : Closes rest) : (nulls ++ rest).head? ≠ some .leftParen := by
  have noWord (name : String) : ¬ Token.leftParen.isKeyword name = true := nofun
  cases said with
  | unsaid => obtain ⟨tail, rfl | rfl⟩ := closes <;> exact nofun
  | null said | notNull said =>
    cases said with
    | cons word _ => exact fun same => noWord _ (Option.some.inj same ▸ word)

theorem recognizes_column : Recognizes column asRead.Column Closes where
  sound {tokens definition rest} read := by
    obtain ⟨name, _, readName, behindName⟩ := read_bind_iff.mp read
    obtain ⟨type, _, readType, behindType⟩ := read_bind_iff.mp behindName
    obtain ⟨nullable, _, readNulls, answered⟩ := read_bind_iff.mp behindType
    obtain ⟨quote, rfl⟩ := read_name_iff.mp readName
    obtain ⟨typing, rfl, typed⟩ := recognizes_columnType.sound readType
    obtain ⟨nulls, rfl, said⟩ := recognizes_nullability.sound readNulls
    obtain ⟨rfl, rfl⟩ := read_pure_iff.mp answered
    exact ⟨_, by simp, .mk quote typed said⟩
  complete {taken definition} derived rest follows := by
    obtain @⟨name, quote, typing, nulls, type, nullable, typed, said⟩ := derived
    have readName : Declaration.name (.word name quote :: (typing ++ (nulls ++ rest))) = .ok (name, _) :=
      read_name_iff.mpr ⟨quote, rfl⟩
    have readType := recognizes_columnType.complete typed (said.head? follows)
    have readNulls := recognizes_nullability.complete said follows
    rw [List.append_assoc, List.cons_append]
    unfold column
    rw [bind_of_ok readName, bind_of_ok readType, bind_of_ok readNulls]
    rfl

theorem recognizes_columns : Recognizes columns asRead.Columns fun _ => True :=
  (recognizes_column.separatedBy .comma .comma).inParens
    (fun rest => ⟨.rightParen rest, nofun⟩) _

/-! ## Parts of statements -/

theorem recognizes_ifNotExists :
    Recognizes ifNotExists Missing fun rest => afterKeywords? ["IF", "NOT", "EXISTS"] rest = none where
  sound {tokens found rest} read := by
    rcases read_acceptKeywords_iff.mp read with ⟨rfl, taken, rfl, said⟩ | ⟨rfl, -, rfl⟩
    · exact ⟨taken, rfl, .said said⟩
    · exact ⟨[], rfl, .unsaid⟩
  complete {taken found} derived rest follows := by
    cases derived with
    | unsaid => exact read_acceptKeywords_iff.mpr (.inr ⟨rfl, follows, rfl⟩)
    | said said => exact said.accepted rest

/-- The first part of a table name is not taken for IF, as no NOT follows it. -/
theorem noIfNotExists_table {name columns : List Token} {table : Sql.ObjectName}
    {definitions : List ColumnDefinition} (named : TableName name table)
    (declared : asRead.Columns columns definitions) (rest : List Token) :
    afterKeywords? ["IF", "NOT", "EXISTS"] (name ++ (columns ++ rest)) = none := by
  obtain ⟨inner, rfl, -⟩ := declared
  cases named with
  | one first =>
    obtain ⟨token, rfl, -⟩ := first
    exact afterKeywords?_of_second (by decide) _
  | cons first others =>
    obtain ⟨token, rfl, -⟩ := first
    exact afterKeywords?_of_second (by decide) _

theorem recognizes_table :
    Recognizes table (fun taken x => ∃ name, TableName taken name ∧ x = .ofName name)
      fun rest => rest.head? ≠ some .period where
  sound {tokens x rest} read := by
    obtain ⟨name, between, readName, answered⟩ := read_bind_iff.mp read
    obtain ⟨rfl, rfl⟩ := read_pure_iff.mp answered
    obtain ⟨taken, rfl, named⟩ := recognizes_objectName.sound readName
    exact ⟨taken, rfl, name, named, rfl⟩
  complete {taken x} derived rest follows := by
    obtain ⟨name, named, rfl⟩ := derived
    unfold table
    rw [bind_of_ok (recognizes_objectName.complete named follows)]
    rfl

theorem head?_of_table {tokens rest : List Token} {x : TableRef} (read : table tokens = .ok (x, rest)) :
    rest.head? ≠ some .period := by
  obtain ⟨name, between, readName, answered⟩ := read_bind_iff.mp read
  obtain ⟨-, rfl⟩ := read_pure_iff.mp answered
  exact head?_of_separatedBy readName

/-- Reads what a function is for, if it is said. -/
def purpose : Reader (Option String) := do
  if ← acceptWord "TYPE" then return some (← Declaration.name) else return none

/-- What comes behind the purpose of a function starts with another word. -/
theorem recognizes_purpose :
    Recognizes purpose asRead.Purpose fun rest => ∀ token ∈ rest.head?, ¬ asRead.word "TYPE" token where
  sound {tokens udfType rest} read := by
    obtain ⟨found, between, accepted, behind⟩ := read_bind_iff.mp read
    rcases read_acceptWord_iff.mp accepted with ⟨rfl, token, rfl, word⟩ | ⟨rfl, -, rfl⟩
    · obtain ⟨name, _, readName, answered⟩ := read_bind_iff.mp behind
      obtain ⟨quote, rfl⟩ := read_name_iff.mp readName
      obtain ⟨rfl, rfl⟩ := read_pure_iff.mp answered
      exact ⟨[token, .word name quote], rfl, .said word quote⟩
    · obtain ⟨rfl, rfl⟩ := read_pure_iff.mp behind
      exact ⟨[], rfl, .unsaid⟩
  complete {taken udfType} derived rest follows := by
    unfold purpose
    cases derived with
    | unsaid =>
      have accepted := read_acceptWord_iff.mpr (.inr ⟨rfl, follows, rfl⟩)
      exact read_bind_iff.mpr ⟨false, rest, accepted, rfl⟩
    | @said token name word quote =>
      have accepted := read_acceptWord_iff.mpr
        (.inl ⟨rfl, token, Eq.refl (token :: .word name quote :: rest), word⟩)
      exact read_bind_iff.mpr ⟨true, _, accepted, read_bind_iff.mpr ⟨name, rest, rfl, rfl⟩⟩

/-! ## Statements -/

theorem read_tableBehind_iff {tokens rest : List Token} {declaration : TableDeclaration} :
    tableBehind tokens = .ok (declaration, rest) ↔
      ∃ missing name columns table, tokens = missing ++ (name ++ (columns ++ rest)) ∧
        Missing missing declaration.ifNotExists ∧ TableName name table ∧
        asRead.Columns columns declaration.columns ∧ declaration.table = .ofName table := by
  constructor
  · intro read
    obtain ⟨ifNotExists, _, readMissing, behindMissing⟩ := read_bind_iff.mp read
    obtain ⟨table, _, readTable, behindTable⟩ := read_bind_iff.mp behindMissing
    obtain ⟨definitions, _, readColumns, answered⟩ := read_bind_iff.mp behindTable
    obtain ⟨missing, rfl, said⟩ := recognizes_ifNotExists.sound readMissing
    obtain ⟨name, rfl, table, named, rfl⟩ := recognizes_table.sound readTable
    obtain ⟨columns, rfl, declared⟩ := recognizes_columns.sound readColumns
    obtain ⟨rfl, rfl⟩ := read_pure_iff.mp answered
    exact ⟨missing, name, columns, table, rfl, said, named, declared, rfl⟩
  · rintro ⟨missing, name, columns, table, rfl, said, named, declared, same⟩
    -- columns open with a parenthesis, so the name ends before them
    have noPoint : (columns ++ rest).head? ≠ some .period := by
      obtain ⟨inner, rfl, -⟩ := declared
      exact nofun
    have readMissing := recognizes_ifNotExists.complete said (noIfNotExists_table named declared rest)
    have readTable := recognizes_table.complete ⟨table, named, rfl⟩ noPoint
    have readColumns : Declaration.columns (columns ++ rest) = .ok (declaration.columns, rest) :=
      recognizes_columns.complete declared trivial
    unfold tableBehind
    rw [bind_of_ok readMissing, bind_of_ok readTable, bind_of_ok readColumns, ← same]
    rfl

/-- The reader of functions, with their purpose read by itself. -/
theorem udfBehind_eq :
    udfBehind = do
      let ifNotExists ← ifNotExists
      let name ← name
      expectWord "INPUT"
      let inputs ← columns
      expectWord "OUTPUT"
      let outputs ← columns
      let udfType ← purpose
      expectWord "IMPL"
      let implementation ← literalString
      return { name, ifNotExists, inputs, outputs, udfType, implementation } := by
  have branches (k : Option String → Reader UdfDeclaration) :
      (do if ← acceptWord "TYPE" then
            let udfType ← name
            let said ← pure (some udfType)
            k said
          else
            let unsaid ← pure none
            k unsaid) = purpose >>= k := by
    unfold purpose
    rw [bind_assoc]
    refine congrArg _ (funext fun found => ?_)
    cases found <;> simp
  unfold udfBehind
  simp only [branches]

theorem read_udfBehind_iff {tokens rest : List Token} {declaration : UdfDeclaration} :
    udfBehind tokens = .ok (declaration, rest) ↔
      ∃ missing quote before ins between outs purpose impl path,
        tokens = missing ++ .word declaration.name quote :: before ::
            (ins ++ between :: (outs ++ (purpose ++ impl :: path :: rest))) ∧
        Missing missing declaration.ifNotExists ∧ asRead.word "INPUT" before ∧
        asRead.Columns ins declaration.inputs ∧ asRead.word "OUTPUT" between ∧
        asRead.Columns outs declaration.outputs ∧ asRead.Purpose purpose declaration.udfType ∧
        asRead.word "IMPL" impl ∧ asRead.path path declaration.implementation := by
  rw [udfBehind_eq]
  constructor
  · intro read
    obtain ⟨ifNotExists, _, readMissing, behindMissing⟩ := read_bind_iff.mp read
    obtain ⟨name, _, readName, behindName⟩ := read_bind_iff.mp behindMissing
    obtain ⟨_, _, readInput, behindInput⟩ := read_bind_iff.mp behindName
    obtain ⟨inputs, _, readInputs, behindInputs⟩ := read_bind_iff.mp behindInput
    obtain ⟨_, _, readOutput, behindOutput⟩ := read_bind_iff.mp behindInputs
    obtain ⟨outputs, _, readOutputs, behindOutputs⟩ := read_bind_iff.mp behindOutput
    obtain ⟨udfType, _, readPurpose, behindPurpose⟩ := read_bind_iff.mp behindOutputs
    obtain ⟨_, _, readImpl, behindImpl⟩ := read_bind_iff.mp behindPurpose
    obtain ⟨implementation, _, readPath, answered⟩ := read_bind_iff.mp behindImpl
    obtain ⟨missing, rfl, said⟩ := recognizes_ifNotExists.sound readMissing
    obtain ⟨quote, rfl⟩ := read_name_iff.mp readName
    obtain ⟨before, rfl, input⟩ := read_expectWord_iff.mp readInput
    obtain ⟨ins, rfl, declaredInputs⟩ := recognizes_columns.sound readInputs
    obtain ⟨between, rfl, output⟩ := read_expectWord_iff.mp readOutput
    obtain ⟨outs, rfl, declaredOutputs⟩ := recognizes_columns.sound readOutputs
    obtain ⟨purpose, rfl, purposed⟩ := recognizes_purpose.sound readPurpose
    obtain ⟨impl, rfl, implements⟩ := read_expectWord_iff.mp readImpl
    obtain ⟨path, rfl, lies⟩ := read_literalString_iff.mp readPath
    obtain ⟨rfl, rfl⟩ := read_pure_iff.mp answered
    exact ⟨missing, quote, before, ins, between, outs, purpose, impl, path, rfl, said, input, declaredInputs,
      output, declaredOutputs, purposed, implements, lies⟩
  · rintro ⟨missing, quote, before, ins, between, outs, purpose, impl, path, rfl, said, input, declaredInputs,
      output, declaredOutputs, purposed, implements, lies⟩
    -- INPUT behind the name is not NOT, so the name is not taken for IF
    have noNot : ¬ before.isKeyword "NOT" = true :=
      not_isKeyword_of_word input (by decide +kernel) (by decide)
    have noMissing : afterKeywords? ["IF", "NOT", "EXISTS"] (.word declaration.name quote :: before ::
        (ins ++ between :: (outs ++ (purpose ++ impl :: path :: rest)))) = none :=
      afterKeywords?_of_second noNot _
    have readMissing := recognizes_ifNotExists.complete said noMissing
    -- IMPL is not TYPE, so no purpose is read where none is said
    have noType : ∀ token ∈ (impl :: path :: rest).head?, ¬ asRead.word "TYPE" token := by
      rintro token ⟨rfl⟩ type
      have same := Option.some.inj (implements.symm.trans type)
      exact absurd same (by decide)
    rw [bind_of_ok readMissing, bind_of_ok (read_name_iff.mpr ⟨quote, rfl⟩),
      bind_of_ok (read_expectWord_iff.mpr ⟨before, rfl, input⟩),
      bind_of_ok (recognizes_columns.complete declaredInputs trivial),
      bind_of_ok (read_expectWord_iff.mpr ⟨between, rfl, output⟩),
      bind_of_ok (recognizes_columns.complete declaredOutputs trivial),
      bind_of_ok (recognizes_purpose.complete purposed noType),
      bind_of_ok (read_expectWord_iff.mpr ⟨impl, rfl, implements⟩),
      bind_of_ok (read_literalString_iff.mpr ⟨path, rfl, lies⟩)]
    rfl

theorem read_loadBehind_iff {tokens rest : List Token} {load : LoadStatement} :
    loadBehind tokens = .ok (load, rest) ↔
      ∃ infile path into goal table, tokens = infile :: path :: into :: (goal ++ rest) ∧
        asRead.word "INFILE" infile ∧ asRead.path path load.path ∧ asRead.word "INTO" into ∧
        asRead.Goal goal table ∧ load.table = .ofName table ∧ rest.head? ≠ some .period := by
  constructor
  · intro read
    obtain ⟨_, _, readInfile, behindInfile⟩ := read_bind_iff.mp read
    obtain ⟨path, _, readPath, behindPath⟩ := read_bind_iff.mp behindInfile
    obtain ⟨_, _, readInto, behindInto⟩ := read_bind_iff.mp behindPath
    obtain ⟨found, _, readKind, behindKind⟩ := read_bind_iff.mp behindInto
    obtain ⟨table, _, readTable, answered⟩ := read_bind_iff.mp behindKind
    obtain ⟨infile, rfl, fromFile⟩ := read_expectWord_iff.mp readInfile
    obtain ⟨file, rfl, lies⟩ := read_literalString_iff.mp readPath
    obtain ⟨into, rfl, goes⟩ := read_expectWord_iff.mp readInto
    obtain ⟨rfl, rfl⟩ := read_pure_iff.mp answered
    have ends := head?_of_table readTable
    obtain ⟨taken, rfl, name, named, rfl⟩ := recognizes_table.sound readTable
    -- the token behind INTO is the word TABLE, or the name starts there
    rcases read_acceptWord_iff.mp readKind with ⟨rfl, kind, rfl, ofTable⟩ | ⟨rfl, other, rfl⟩
    · exact ⟨infile, file, into, kind :: taken, name, rfl, fromFile, lies, goes, .table ofTable named, rfl, ends⟩
    · obtain ⟨first, part, more, rfl, -⟩ := TableName.eq_cons named
      have noTable := other first rfl
      exact ⟨infile, file, into, first :: more, name, rfl, fromFile, lies, goes, .name noTable named, rfl, ends⟩
  · rintro ⟨infile, path, into, goal, table, rfl, fromFile, lies, goes, goal', same, ends⟩
    unfold loadBehind
    rw [bind_of_ok (read_expectWord_iff.mpr ⟨infile, rfl, fromFile⟩),
      bind_of_ok (read_literalString_iff.mpr ⟨path, rfl, lies⟩),
      bind_of_ok (read_expectWord_iff.mpr ⟨into, rfl, goes⟩)]
    cases goal' with
    | @name first more _ noTable named =>
      have kind : acceptWord "TABLE" (first :: more ++ rest) = .ok (false, first :: more ++ rest) :=
        read_acceptWord_iff.mpr (.inr ⟨rfl, by rintro token ⟨rfl⟩; exact noTable, rfl⟩)
      rw [bind_of_ok kind, bind_of_ok (recognizes_table.complete ⟨table, named, rfl⟩ ends), ← same]
      rfl
    | @table kind name _ ofTable named =>
      have kind : acceptWord "TABLE" (kind :: name ++ rest) = .ok (true, name ++ rest) :=
        read_acceptWord_iff.mpr (.inl ⟨rfl, kind, rfl, ofTable⟩)
      rw [bind_of_ok kind, bind_of_ok (recognizes_table.complete ⟨table, named, rfl⟩ ends), ← same]
      rfl

theorem opening?_eq_some_iff {tokens behind : List Token} {reader : Reader Statement} :
    opening? tokens = some (reader, behind) ↔
      ∃ first second, tokens = first :: second :: behind ∧ behind? (word? first) (word? second) = some reader := by
  constructor
  · intro opens
    match tokens with
    | [] | [_] => cases opens
    | first :: second :: rest =>
      obtain ⟨reader, known, same⟩ := Option.map_eq_some_iff.mp opens
      cases same
      exact ⟨first, second, rfl, known⟩
  · rintro ⟨first, second, rfl, known⟩
    exact Option.map_eq_some_iff.mpr ⟨reader, known, rfl⟩

theorem behind?_eq_some_iff {first second : Option String} {reader : Reader Statement} :
    behind? first second = some reader ↔
      first = some "CREATE" ∧ second = some "TABLE" ∧ reader = Statement.createTable <$> tableBehind ∨
        first = some "CREATE" ∧ second = some "UDF" ∧ reader = Statement.createUdf <$> udfBehind ∨
        first = some "LOAD" ∧ second = some "DATA" ∧ reader = Statement.loadData <$> loadBehind := by
  constructor
  · intro known
    unfold behind? at known
    split at known
    · exact .inl ⟨rfl, rfl, (Option.some.inj known).symm⟩
    · exact .inr (.inl ⟨rfl, rfl, (Option.some.inj known).symm⟩)
    · exact .inr (.inr ⟨rfl, rfl, (Option.some.inj known).symm⟩)
    · cases known
  · rintro (⟨rfl, rfl, rfl⟩ | ⟨rfl, rfl, rfl⟩ | ⟨rfl, rfl, rfl⟩) <;> rfl

/-- Declarations are read exactly as the grammar derives them in the spelling that the readers take. -/
theorem readAs_iff_derives {tokens rest : List Token} {statement : Statement} :
    ReadAs tokens statement rest ↔
      ∃ taken, tokens = taken ++ rest ∧ asRead.Derives taken statement ∧ Ends statement rest := by
  constructor
  · rintro ⟨reader, behind, opens, read⟩
    obtain ⟨first, second, rfl, known⟩ := opening?_eq_some_iff.mp opens
    rcases behind?_eq_some_iff.mp known with ⟨creates, ofTable, rfl⟩ | ⟨creates, ofUdf, rfl⟩ | ⟨loads, ofData, rfl⟩
    · obtain ⟨⟨_, ifNotExists, definitions⟩, readTable, rfl⟩ := read_map_iff.mp read
      obtain ⟨missing, name, columns, table, rfl, said, named, declared, rfl⟩ := read_tableBehind_iff.mp readTable
      exact ⟨_, by simp, .createTable creates ofTable said named declared, nofun⟩
    · obtain ⟨declaration, readUdf, rfl⟩ := read_map_iff.mp read
      obtain ⟨missing, quote, before, ins, between, outs, purpose, impl, path, rfl, said, input, declaredInputs,
        output, declaredOutputs, purposed, implements, lies⟩ := read_udfBehind_iff.mp readUdf
      exact ⟨_, by simp, .createUdf quote creates ofUdf said input declaredInputs output declaredOutputs purposed
        implements lies, nofun⟩
    · obtain ⟨⟨_, file⟩, readLoad, rfl⟩ := read_map_iff.mp read
      obtain ⟨infile, path, into, goal, table, rfl, fromFile, lies, goes, reaches, rfl, ends⟩ :=
        read_loadBehind_iff.mp readLoad
      exact ⟨_, by simp, .load loads ofData fromFile lies goes reaches, fun _ _ => ends⟩
  · rintro ⟨taken, rfl, derived, ends⟩
    cases derived with
    | createTable creates ofTable said named declared =>
      have known := behind?_eq_some_iff.mpr (.inl ⟨creates, ofTable, rfl⟩)
      refine ⟨_, _, opening?_eq_some_iff.mpr ⟨_, _, rfl, known⟩, read_map_iff.mpr ⟨_, ?_, rfl⟩⟩
      exact read_tableBehind_iff.mpr ⟨_, _, _, _, by simp, said, named, declared, rfl⟩
    | createUdf quote creates ofUdf said input declaredInputs output declaredOutputs purposed implements lies =>
      have known := behind?_eq_some_iff.mpr (.inr (.inl ⟨creates, ofUdf, rfl⟩))
      refine ⟨_, _, opening?_eq_some_iff.mpr ⟨_, _, rfl, known⟩, read_map_iff.mpr ⟨_, ?_, rfl⟩⟩
      exact read_udfBehind_iff.mpr ⟨_, quote, _, _, _, _, _, _, _, by simp, said, input, declaredInputs,
        output, declaredOutputs, purposed, implements, lies⟩
    | load loads ofData fromFile lies goes reaches =>
      have known := behind?_eq_some_iff.mpr (.inr (.inr ⟨loads, ofData, rfl⟩))
      refine ⟨_, _, opening?_eq_some_iff.mpr ⟨_, _, rfl, known⟩, read_map_iff.mpr ⟨_, ?_, rfl⟩⟩
      exact read_loadBehind_iff.mpr ⟨_, _, _, _, _, by simp, fromFile, lies, goes, reaches, rfl, ends _ rfl⟩

end VideoPlan.Declaration
