import VideoPlan.Proofs.Sql.Recognition
import VideoPlan.Statement.Declaration

/-!
# The grammar of declarations

```
CREATE TABLE [IF NOT EXISTS] name (column type [[NOT] NULL], …)
CREATE UDF [IF NOT EXISTS] name INPUT (column type, …) OUTPUT (column type, …) [TYPE name] IMPL 'path'
LOAD DATA INFILE 'path' INTO [TABLE] name
```

`Spelling.Derives` is this grammar as a relation between tokens and statements. How its words, the sizes
behind a scalar type and its paths may be written is left open there: `documented` is what the grammar
promises, `asRead` is what the readers take.
-/

namespace VideoPlan.Declaration

open Sql (Token Reader)
open Sql.Reader

/-! ## Spellings -/

/-- How the parts of the grammar that are no names are written. -/
structure Spelling where
  /-- The token is this word, which is given in upper case. -/
  word : String → Token → Prop
  /-- The tokens may stand in parentheses behind a scalar type. -/
  modifiers : List Token → Prop
  /-- The token is this path. -/
  path : Token → String → Prop

/-- Words of the grammar are not quoted, a scalar type has one size or two, and a path is a string. -/
def documented : Spelling where
  word name token := ∃ value, token = .word value none ∧ Text.asciiUppercase value = name
  modifiers tokens :=
    (∃ size long, tokens = [.number size long]) ∨
      ∃ precision long scale long', tokens = [.number precision long, .comma, .number scale long']
  path token value := ∃ style ∈ [Sql.StringStyle.plain, .escaped, .unicode], token = .string style value

/-- Words of the grammar also count in quotes, a scalar type has any numbers and commas behind it, and a
word that is not reserved is a path. -/
def asRead : Spelling where
  word name token := word? token = some name
  modifiers tokens := ∀ token ∈ tokens, token = .comma ∨ ∃ digits long, token = .number digits long
  path token value := stringOf? token = some value

/-! ## The grammar -/

/-- The scalar type of a name in upper case. -/
def scalar? : String → Option ColumnType
  | "BOOLEAN" | "BOOL" => some .boolean
  | "INTEGER" | "INT" | "BIGINT" | "SMALLINT" => some .integer
  | "FLOAT" | "REAL" | "DOUBLE" => some .float
  | "TEXT" | "VARCHAR" | "CHAR" => some .text
  | _ => none

/-- Whether sizes may follow a scalar type. -/
def takesModifiers : ColumnType → Bool
  | .float => true
  | .text => true
  | _ => false

/-- A column may be null unless it is said that it may not. -/
inductive Nullability : List Token → Bool → Prop
  | unsaid : Nullability [] true
  | null {taken : List Token} (said : Keywords ["NULL"] taken) : Nullability taken true
  | notNull {taken : List Token} (said : Keywords ["NOT", "NULL"] taken) : Nullability taken false

/-- Whether it is said that what is declared may be there already. -/
inductive Missing : List Token → Bool → Prop
  | unsaid : Missing [] false
  | said {taken : List Token} (said : Keywords ["IF", "NOT", "EXISTS"] taken) : Missing taken true

/-- The name of a table with its qualifiers. -/
abbrev TableName : List Token → Sql.ObjectName → Prop :=
  Separated .period (Single fun token x => identOf? token = some x)

/-- A table name has a first part, and more parts only behind a point. -/
theorem TableName.eq_cons {taken : List Token} {table : Sql.ObjectName} (named : TableName taken table) :
    ∃ first part more, taken = first :: more ∧ identOf? first = some part ∧
      (more = [] ∨ more.head? = some .period) := by
  cases named with
  | one first =>
    obtain ⟨token, rfl, part⟩ := first
    exact ⟨token, _, [], rfl, part, .inl rfl⟩
  | cons first others =>
    obtain ⟨token, rfl, part⟩ := first
    exact ⟨token, _, _, rfl, part, .inr rfl⟩

namespace Spelling

variable (spelling : Spelling)

/-- A dimension is a number of at most 64 bits or open. -/
inductive Dimension : Token → Option Nat → Prop
  | bounded {digits : String} {size : Nat} (long : Bool) (fits : size? digits = some size) :
      Dimension (.number digits long) (some size)
  | any {token : Token} (word : spelling.word "ANYDIM" token) : Dimension token none

/-- A scalar type, perhaps with its sizes, or an array of elements, perhaps with its dimensions. -/
inductive Typing : List Token → DataType → Prop
  | scalar {token : Token} {name : String} {base : ColumnType} (word : spelling.word name token)
      (named : scalar? name = some base) : Typing [token] { base }
  | sized {token : Token} {name : String} {base : ColumnType} {sizes : List Token}
      (word : spelling.word name token) (named : scalar? name = some base)
      (takes : takesModifiers base = true) (modifiers : spelling.modifiers sizes) :
      Typing (token :: .leftParen :: sizes ++ [.rightParen]) { base }
  | array {token element : Token} {name : String} {type : ElementType}
      (word : spelling.word "NDARRAY" token) (elementWord : spelling.word name element)
      (named : ElementType.ofKeyword? name = some type) :
      Typing [token, element] { base := .ndArray, element := some type }
  | dimensioned {token element : Token} {name : String} {type : ElementType} {taken : List Token}
      {dimensions : List (Option Nat)} (word : spelling.word "NDARRAY" token)
      (elementWord : spelling.word name element) (named : ElementType.ofKeyword? name = some type)
      (sizes : Enclosed (Separated .comma (Single spelling.Dimension)) taken dimensions) :
      Typing (token :: element :: taken) { base := .ndArray, element := some type, dimensions }

/-- A column: a word that names it, its type, and whether it may be null. -/
inductive Column : List Token → ColumnDefinition → Prop
  | mk {name : String} (quote : Option Char) {typing nulls : List Token} {type : DataType}
      {nullable : Bool} (typed : spelling.Typing typing type) (said : Nullability nulls nullable) :
      Column (.word name quote :: typing ++ nulls) { name, type, nullable }

/-- Columns in parentheses. -/
def Columns : List Token → List ColumnDefinition → Prop :=
  Enclosed (Separated .comma spelling.Column)

/-- What a function is for, if it is said. -/
inductive Purpose : List Token → Option String → Prop
  | unsaid : Purpose [] none
  | said {token : Token} {name : String} (word : spelling.word "TYPE" token) (quote : Option Char) :
      Purpose [token, .word name quote] (some name)

/-- Where a file goes: a table name behind INTO, perhaps with the word TABLE before it. Without that word the
name does not start with it. -/
inductive Goal : List Token → Sql.ObjectName → Prop
  | name {first : Token} {more : List Token} {table : Sql.ObjectName}
      (noTable : ¬ spelling.word "TABLE" first) (named : TableName (first :: more) table) :
      Goal (first :: more) table
  | table {kind : Token} {name : List Token} {table : Sql.ObjectName}
      (ofTable : spelling.word "TABLE" kind) (named : TableName name table) :
      Goal (kind :: name) table

/-- The grammar. -/
inductive Derives : List Token → Statement → Prop
  | createTable {create kind : Token} {missing name columns : List Token} {ifNotExists : Bool}
      {table : Sql.ObjectName} {definitions : List ColumnDefinition}
      (creates : spelling.word "CREATE" create) (ofTable : spelling.word "TABLE" kind)
      (said : Missing missing ifNotExists) (named : TableName name table)
      (declared : spelling.Columns columns definitions) :
      Derives (create :: kind :: (missing ++ (name ++ columns)))
        (.createTable { table := .ofName table, ifNotExists, columns := definitions })
  | createUdf {create kind before between impl path : Token} {missing ins outs purpose : List Token}
      {ifNotExists : Bool} {name implementation : String} {inputs outputs : List ColumnDefinition}
      {udfType : Option String} (quote : Option Char)
      (creates : spelling.word "CREATE" create) (ofUdf : spelling.word "UDF" kind)
      (said : Missing missing ifNotExists)
      (input : spelling.word "INPUT" before) (declaredInputs : spelling.Columns ins inputs)
      (output : spelling.word "OUTPUT" between) (declaredOutputs : spelling.Columns outs outputs)
      (purposed : spelling.Purpose purpose udfType)
      (implements : spelling.word "IMPL" impl) (lies : spelling.path path implementation) :
      Derives
        (create :: kind :: (missing ++ .word name quote :: before ::
          (ins ++ between :: (outs ++ (purpose ++ [impl, path])))))
        (.createUdf { name, ifNotExists, inputs, outputs, implementation, udfType })
  | load {load data infile path into : Token} {goal : List Token} {file : String} {table : Sql.ObjectName}
      (loads : spelling.word "LOAD" load) (ofData : spelling.word "DATA" data)
      (fromFile : spelling.word "INFILE" infile) (lies : spelling.path path file)
      (goes : spelling.word "INTO" into) (reaches : spelling.Goal goal table) :
      Derives (load :: data :: infile :: path :: into :: goal)
        (.loadData { table := .ofName table, path := file })

end Spelling

end VideoPlan.Declaration
