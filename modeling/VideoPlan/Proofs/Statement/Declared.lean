import VideoPlan.Catalog.Definition
import VideoPlan.Plan
import VideoPlan.Proofs.Action
import VideoPlan.Proofs.Number.Digits
import VideoPlan.Proofs.Sql.Lexer
import VideoPlan.Proofs.Sql.Reader
import VideoPlan.Statement.Declaration

/-!
# Declared columns are read back

Plans show the columns of a new table, and the inputs and outputs of a new function, as they are declared:
in parentheses, with commas between them. Read as a declaration, that text gives the definitions that they
come from.

The tokens of a declared type are written down once (`DataType.tokens`); the text gives these tokens
(`scans_declared`), and the reader takes them for the type (`columnType_reads`).

Main statement: `Declaration.declared_reads_back`.
-/

namespace VideoPlan

open Sql Sql.Reader
open Number

/-! ## Dimensions -/

/-- The token of a dimension. -/
def dimensionToken : Option Nat → Token
  | some size => .number (toString size) false
  | none => .word "ANYDIM" none

theorem scans_dimension (dimension : Option Nat) :
    Scans (dimensionText dimension).toList [dimensionToken dimension] := by
  cases dimension with
  | none => exact scans_word (by decide +kernel)
  | some size => exact scans_number size

namespace Declaration

theorem size?_toString {size : Nat} (fits : size < UInt64.size) : size? (toString size) = some size := by
  rw [size?, readNat?_toString]
  exact Option.filter_eq_some_iff.mpr ⟨rfl, decide_eq_true fits⟩

theorem dimension_reads {size? : Option Nat} (fits : ∀ size ∈ size?, size < UInt64.size) :
    Reads dimension [dimensionToken size?] size? := by
  intro rest _
  unfold dimension
  rw [bind_of_ok (read_get _)]
  cases size? with
  | none =>
    have word : word? (.word "ANYDIM" none) = some "ANYDIM" := by decide +kernel
    dsimp only [dimensionToken, List.singleton_append]
    rw [if_pos word]
    rfl
  | some size =>
    dsimp only [dimensionToken, List.singleton_append]
    rw [bind_of_ok (read_set _ _), size?_toString (fits size rfl)]
    rfl

end Declaration

/-! ## Types -/

theorem scan?_columnKeyword (base : ColumnType) :
    Token.scan? base.keyword = some [.word base.keyword none] := by
  cases base <;> decide +kernel

theorem scan?_elementKeyword (element : ElementType) :
    Token.scan? element.keyword = some [.word element.keyword none] := by
  cases element <;> decide +kernel

/-- The tokens of dimensions, in parentheses if there are any. -/
def dimensionTokens (dimensions : List (Option Nat)) : List Token :=
  if dimensions.isEmpty then []
  else .leftParen :: [.comma].intercalate (dimensions.map ([dimensionToken ·])) ++ [.rightParen]

/-- The tokens of a type as it is declared. -/
def DataType.tokens (type : DataType) : List Token :=
  .word type.base.keyword none :: (type.element.map (Token.word ·.keyword none)).toList ++
    dimensionTokens type.dimensions

theorem DataType.scans_declared (type : DataType) : Scans type.declared.toList type.tokens := by
  have base := scans_word (scan?_columnKeyword type.base)
  have list : Scans (commaList (type.dimensions.map dimensionText)).toList
      ([.comma].intercalate (type.dimensions.map ([dimensionToken ·]))) :=
    .commaList fun dimension _ => scans_dimension dimension
  unfold declared tokens dimensionTokens
  rw [String.toList_append, String.toList_append]
  refine (base.append ?element ?elementApart).append ?dimensions ?dimensionsApart
  case element =>
    cases type.element with
    | none => exact .nil
    | some element =>
      rw [String.toList_append]
      exact (scans_word (scan?_elementKeyword element)).cons (c := ' ') rfl
  case elementApart =>
    cases type.element with
    | none => exact .nil
    | some element =>
      rw [String.toList_append]
      exact .cons rfl _
  case dimensions =>
    split
    · exact .nil
    · rw [String.toList_append, String.toList_append]
      exact list.inParens
  case dimensionsApart =>
    split
    · exact .nil
    · rw [String.toList_append, String.toList_append]
      exact .cons rfl _

namespace Declaration

theorem read_name (value : String) (rest : List Token) :
    name (.word value none :: rest) = .ok (value, rest) := rfl

/-- The word of a type without elements is read as this type. -/
theorem columnType_reads_base {base : ColumnType} (noArray : base ≠ .ndArray) :
    Reads columnType (DataType.tokens { base }) { base } := by
  rintro rest ⟨tail, closing⟩
  have upper : Text.asciiUppercase base.keyword = base.keyword := by cases base <;> decide +kernel
  unfold columnType
  rw [DataType.tokens, List.cons_append, List.cons_append, bind_of_ok (read_name _ _), upper]
  cases base with
  | ndArray => exact absurd rfl noArray
  | _ => rcases closing with rfl | rfl <;> rfl

theorem optionalDimensions_reads {dimensions : List (Option Nat)}
    (fits : ∀ size, some size ∈ dimensions → size < UInt64.size) :
    Reads optionalDimensions (dimensionTokens dimensions) dimensions := by
  rintro rest ⟨tail, closing⟩
  cases dimensions with
  | nil => rcases closing with rfl | rfl <;> rfl
  | cons first others =>
    have reads : ∀ size? ∈ first :: others, Reads dimension [dimensionToken size?] size? := by
      intro size? member
      refine dimension_reads fun size same => fits size ?_
      rwa [← Option.mem_def.mp same]
    have list := inParens_commaSeparated (List.cons_ne_nil first others) reads rest
    have tokens : dimensionTokens (first :: others) ++ rest =
        .leftParen :: [.comma].intercalate ((first :: others).map ([dimensionToken ·])) ++ .rightParen :: rest := by
      rw [dimensionTokens, if_neg (by simp), List.append_assoc, List.singleton_append]
    unfold optionalDimensions
    rw [tokens, bind_of_ok (read_peek? _ _)]
    exact list

/-- The tokens of an array are read as this array. -/
theorem columnType_reads_array {element : ElementType} {dimensions : List (Option Nat)}
    (fits : ∀ size, some size ∈ dimensions → size < UInt64.size) :
    Reads columnType (DataType.tokens { base := .ndArray, element := some element, dimensions })
      { base := .ndArray, element := some element, dimensions } := by
  intro rest closing
  have upper : Text.asciiUppercase "NDARRAY" = "NDARRAY" := by decide +kernel
  have known : ElementType.ofName? element.keyword = some element := by cases element <;> decide +kernel
  have sizes := optionalDimensions_reads fits rest closing
  show columnType (.word "NDARRAY" none :: .word element.keyword none :: (dimensionTokens dimensions ++ rest)) = _
  unfold columnType
  rw [bind_of_ok (read_name _ _), upper]
  show arrayType (.word element.keyword none :: (dimensionTokens dimensions ++ rest)) = _
  unfold arrayType
  rw [bind_of_ok (read_name _ _), known]
  dsimp only
  rw [bind_of_ok sizes]
  rfl

end Declaration

/-! ## Columns -/

namespace ColumnDefinition

/-- A column or a parameter as it is declared. -/
def declared (definition : ColumnDefinition) : String :=
  definition.name ++ " " ++ definition.type.declared

/-- The tokens of a column as it is declared. -/
def tokens (definition : ColumnDefinition) : List Token :=
  .word definition.name none :: definition.type.tokens

/-- The declared text says all of the definition, and it is read as it is meant: the column may be null, its
name is a word, and the sizes of its dimensions have at most 64 bits. -/
structure Readable (definition : ColumnDefinition) : Prop where
  nullable : definition.nullable = true
  word : Token.scan? definition.name = some [.word definition.name none]
  fits : ∀ size, some size ∈ definition.type.dimensions → size < UInt64.size

/-- A type that is accepted is a scalar type without dimensions or an array of elements. -/
theorem type_of_check {definition : ColumnDefinition} (accepted : definition.check = .ok ()) :
    (∃ base, base ≠ .ndArray ∧ definition.type = { base }) ∨
      ∃ element dimensions,
        definition.type = { base := .ndArray, element := some element, dimensions } := by
  obtain ⟨name, ⟨base, element, dimensions⟩, nullable⟩ := definition
  unfold check at accepted
  split at accepted
  · cases accepted
  cases base with
  | ndArray =>
    cases element with
    | none => cases accepted
    | some element => exact .inr ⟨element, dimensions, rfl⟩
  | _ =>
    cases element with
    | some element => cases accepted
    | none =>
      dsimp only at accepted
      split at accepted
      · rename_i noDimensions
        obtain rfl := List.isEmpty_iff.mp noDimensions
        exact .inl ⟨_, by decide, rfl⟩
      · cases accepted

theorem scans_declared {definition : ColumnDefinition} (readable : definition.Readable) :
    Scans definition.declared.toList definition.tokens := by
  have type := definition.type.scans_declared.cons (c := ' ') rfl
  unfold declared
  rw [String.toList_append, String.toList_append, List.append_assoc]
  exact (scans_word readable.word).append type (.cons rfl _)

theorem column_reads {definition : ColumnDefinition} (readable : definition.Readable)
    (accepted : definition.check = .ok ()) : Reads Declaration.column definition.tokens definition := by
  intro rest closing
  have type : Reads Declaration.columnType definition.type.tokens definition.type := by
    rcases type_of_check accepted with ⟨base, noArray, same⟩ | ⟨element, dimensions, same⟩
    · rw [same]
      exact Declaration.columnType_reads_base noArray
    · rw [same]
      exact Declaration.columnType_reads_array (by simpa [same] using readable.fits)
  unfold Declaration.column tokens
  rw [List.cons_append, bind_of_ok (Declaration.read_name _ _), bind_of_ok (type rest closing)]
  have nullability : Declaration.nullability rest = .ok (true, rest) := by
    obtain ⟨tail, rfl | rfl⟩ := closing <;> rfl
  rw [bind_of_ok nullability, ← readable.nullable]
  rfl

/-- Columns are declared as their definitions are, each of which is accepted. -/
theorem declared_toColumnsFrom {index : Nat} {seen : List String} {definitions : List ColumnDefinition}
    {columns : List Column} (accepted : toColumnsFrom index seen definitions = .ok columns) :
    columns.map Column.declared = definitions.map declared ∧
      ∀ definition ∈ definitions, definition.check = .ok () := by
  induction definitions generalizing index seen columns with
  | nil => cases accepted; simp
  | cons definition definitions ih =>
    simp only [toColumnsFrom, bind_eq_ok] at accepted
    obtain ⟨_, checked, accepted⟩ := accepted
    split at accepted
    · cases accepted
    · simp only [bind_eq_ok, pure_eq_ok] at accepted
      obtain ⟨others, hothers, rfl⟩ := accepted
      obtain ⟨same, all⟩ := ih hothers
      refine ⟨?_, List.forall_mem_cons.mpr ⟨checked, all⟩⟩
      rw [List.map_cons, same]
      rfl

/-- Parameters are declared as their definitions are, each of which is accepted. -/
theorem declared_toParameters {isInput : Bool} {definitions : List ColumnDefinition}
    {parameters : List UdfParameter} (accepted : toParameters isInput definitions = .ok parameters) :
    parameters.map UdfParameter.declared = definitions.map declared ∧
      ∀ definition ∈ definitions, definition.check = .ok () := by
  induction definitions generalizing parameters with
  | nil => cases accepted; simp
  | cons definition definitions ih =>
    simp only [toParameters, bind_eq_ok, pure_eq_ok] at accepted
    obtain ⟨_, checked, others, hothers, rfl⟩ := accepted
    obtain ⟨same, all⟩ := ih hothers
    refine ⟨?_, List.forall_mem_cons.mpr ⟨checked, all⟩⟩
    rw [List.map_cons, same]
    rfl

end ColumnDefinition

/-! ## Main statement -/

namespace Declaration

/-- Whatever text follows, this one is read as a list of definitions, and what is left are the tokens of what
follows. -/
def ReadsBack (text : String) (definitions : List ColumnDefinition) : Prop :=
  ∀ behind rest, Token.scan? behind = some rest →
    (Token.scan? (text ++ behind)).map columns = some (.ok (definitions, rest))

theorem readsBack_declared {definitions : List ColumnDefinition} (nonempty : definitions ≠ [])
    (readable : ∀ definition ∈ definitions, definition.Readable)
    (accepted : ∀ definition ∈ definitions, definition.check = .ok ()) :
    ReadsBack (Operator.inParens (commaList (definitions.map ColumnDefinition.declared))) definitions := by
  intro behind rest scanned
  have list : Scans (commaList (definitions.map ColumnDefinition.declared)).toList
      ([.comma].intercalate (definitions.map ColumnDefinition.tokens)) :=
    .commaList fun definition member => ColumnDefinition.scans_declared (readable definition member)
  have read := inParens_commaSeparated nonempty
    (fun definition member => ColumnDefinition.column_reads (readable definition member)
      (accepted definition member)) rest
  have tokens := scanAll?_inParens list behind.toList
  have text : (Operator.inParens (commaList (definitions.map ColumnDefinition.declared)) ++ behind).toList =
      '(' :: (commaList (definitions.map ColumnDefinition.declared)).toList ++ ')' :: behind.toList := by
    simp [Operator.inParens]
  unfold Token.scan? at scanned ⊢
  rw [text, tokens, scanned]
  exact congrArg Option.some read

/-- Columns and parameters that definitions declare are shown as a text from which the same definitions are
read: all names, types of columns and elements, and dimensions. -/
theorem declared_reads_back {definitions : List ColumnDefinition} (nonempty : definitions ≠ [])
    (readable : ∀ definition ∈ definitions, definition.Readable) :
    (∀ columns, ColumnDefinition.toColumns definitions = .ok columns →
      ReadsBack (Operator.inParens (commaList (columns.map Column.declared))) definitions) ∧
    (∀ isInput parameters, ColumnDefinition.toParameters isInput definitions = .ok parameters →
      ReadsBack (Operator.inParens (commaList (parameters.map UdfParameter.declared))) definitions) := by
  refine ⟨fun columns accepted => ?_, fun isInput parameters accepted => ?_⟩
  · obtain ⟨same, checked⟩ := ColumnDefinition.declared_toColumnsFrom accepted
    rw [same]
    exact readsBack_declared nonempty readable checked
  · obtain ⟨same, checked⟩ := ColumnDefinition.declared_toParameters accepted
    rw [same]
    exact readsBack_declared nonempty readable checked

/-- An array with an open dimension and the largest size, beside a name with letters outside ASCII. -/
theorem declared_reads_back_frames :
    let definitions : List ColumnDefinition :=
      [{ name := "frame"
         type := { base := .ndArray, element := some .uint8, dimensions := [none, some (UInt64.size - 1), some 3] } },
        { name := "Größe_2", type := { base := .float } }]
    ∃ columns, ColumnDefinition.toColumns definitions = .ok columns ∧
      commaList (columns.map Column.declared) =
        "frame NDARRAY UINT8(ANYDIM, 18446744073709551615, 3), Größe_2 FLOAT" ∧
      ReadsBack (Operator.inParens (commaList (columns.map Column.declared))) definitions := by
  intro definitions
  have readable : ∀ definition ∈ definitions, definition.Readable := by
    intro definition member
    rcases List.mem_pair.mp member with rfl | rfl
    · refine ⟨rfl, by decide +kernel, fun size member => ?_⟩
      have sizes : size = UInt64.size - 1 ∨ size = 3 := by simpa using member
      rcases sizes with rfl | rfl <;> decide
    · exact ⟨rfl, by decide +kernel, fun size member => nomatch member⟩
  refine ⟨_, rfl, by decide +kernel, ?_⟩
  exact (declared_reads_back (by decide) readable).1 _ rfl

end Declaration

end VideoPlan
