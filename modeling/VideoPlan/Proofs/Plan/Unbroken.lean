import VideoPlan.Plan
import VideoPlan.Proofs.Plan.Nodes
import VideoPlan.Proofs.Text.Lines

/-!
# Plans on unbroken lines

The names, paths and texts that a plan shows. All else in its text is put there by the plan itself, and has no line
break: so the lines of a plan are unbroken if these words are (`unbroken_lines`).
-/

namespace VideoPlan

open Text

/-! ## Expressions -/

namespace Expr

mutual

/-- The names and texts that an expression shows. -/
def words : Expr → List String
  | .column entry => [entry.name]
  | .literal (.text value) => [value]
  | .literal _ => []
  | .binary _ left right => left.words ++ right.words
  | .unary _ operand => operand.words
  | .call name args => name :: wordsOfAll args
  | .inList _ operand list => operand.words ++ wordsOfAll list
  | .between _ operand low high => operand.words ++ low.words ++ high.words
  | .aliased operand name => operand.words ++ [name]

/-- The names and texts that the expressions show. -/
def wordsOfAll : List Expr → List String
  | [] => []
  | expr :: exprs => expr.words ++ wordsOfAll exprs

end

theorem unbroken_shown {value : Scalar} (unbroken : ∀ word ∈ words (.literal value), Unbroken word) :
    Unbroken value.shown := by
  cases value with
  | null => decide
  | boolean value => cases value <;> decide
  | integer value => exact unbroken_integer value.toInt
  | float value => exact unbroken_float value
  | decimal value => exact unbroken_decimal value
  | text value =>
    have inner : Unbroken value := unbroken value (List.mem_singleton.mpr rfl)
    rw [Scalar.shown, unbroken_append, unbroken_append]
    exact ⟨⟨by decide, inner⟩, by decide⟩

theorem unbroken_unaryText (op : UnaryOp) {operand : String} (unbroken : Unbroken operand) :
    Unbroken (unaryText op operand) := by
  cases op <;> simp only [unaryText, unbroken_append] <;> exact ⟨⟨by decide, unbroken⟩, by decide⟩

theorem unbroken_notText (negated : Bool) : Unbroken (notText negated) := by
  cases negated <;> decide

mutual

/-- The text of an expression is unbroken if its names and texts are; one case for each form. -/
theorem unbroken_text : ∀ expr : Expr, (∀ word ∈ expr.words, Unbroken word) → Unbroken expr.text
  | .column entry, unbroken => unbroken entry.name (List.mem_singleton.mpr rfl)
  | .literal value, unbroken => unbroken_shown unbroken
  | .binary op left right, unbroken => by
    obtain ⟨ofLeft, ofRight⟩ := List.forall_mem_append.mp unbroken
    have symbol : Unbroken op.symbol := by cases op <;> decide
    have first := unbroken_text left ofLeft
    have second := unbroken_text right ofRight
    simp only [text, unbroken_append, first, second, symbol]
    decide
  | .unary op operand, unbroken => unbroken_unaryText op (unbroken_text operand unbroken)
  | .call name args, unbroken => by
    obtain ⟨ofName, ofArgs⟩ := List.forall_mem_cons.mp unbroken
    have list := unbroken_commaList (unbroken_texts args ofArgs)
    simp only [text, unbroken_append, ofName, list]
    decide
  | .inList negated operand list, unbroken => by
    obtain ⟨ofOperand, ofList⟩ := List.forall_mem_append.mp unbroken
    have first := unbroken_text operand ofOperand
    have items := unbroken_commaList (unbroken_texts list ofList)
    simp only [text, unbroken_append, first, items, unbroken_notText]
    decide
  | .between negated operand low high, unbroken => by
    obtain ⟨ofBoth, ofHigh⟩ := List.forall_mem_append.mp unbroken
    obtain ⟨ofOperand, ofLow⟩ := List.forall_mem_append.mp ofBoth
    have first := unbroken_text operand ofOperand
    have lower := unbroken_text low ofLow
    have upper := unbroken_text high ofHigh
    simp only [text, unbroken_append, first, lower, upper, unbroken_notText]
    decide
  | .aliased operand name, unbroken => by
    obtain ⟨ofOperand, ofName⟩ := List.forall_mem_append.mp unbroken
    have first := unbroken_text operand ofOperand
    have label := ofName name (List.mem_singleton.mpr rfl)
    simp only [text, unbroken_append, first, label]
    decide

theorem unbroken_texts : ∀ exprs : List Expr, (∀ word ∈ wordsOfAll exprs, Unbroken word) →
    ∀ text ∈ texts exprs, Unbroken text
  | [], _ => by
    intro text member
    cases member
  | expr :: exprs, unbroken => by
    obtain ⟨first, others⟩ := List.forall_mem_append.mp unbroken
    intro text member
    rcases List.mem_cons.mp member with rfl | member
    · exact unbroken_text expr first
    · exact unbroken_texts exprs others text member

end

end Expr

/-! ## Operators -/

/-- The parts of the name of a table. -/
def TableRef.words (table : TableRef) : List String :=
  table.database.toList ++ table.schema.toList ++ [table.table]

/-- The names, paths and texts that an operator shows. -/
def Operator.words : Operator → List String
  | .get table dataset => table.words ++ dataset.columnNames
  | .filter predicate => predicate.words
  | .project targets => Expr.wordsOfAll targets
  | .insert table _ columns _ => table.words ++ columns.map (·.name)
  | .createTable table columns _ => table.words ++ columns.map (·.name)
  | .createUdf creation =>
    creation.name :: creation.inputs.map (·.name) ++ creation.outputs.map (·.name) ++
      creation.implementation :: creation.udfType.toList
  | .loadData dataset path => [dataset.name, path]

/-- The names, paths and texts that the operators of a plan show have no line break. -/
def Plan.Unbroken (plan : Plan) : Prop :=
  ∀ node ∈ plan.nodes, ∀ word ∈ node.operator.words, Text.Unbroken word

instance (plan : Plan) : Decidable plan.Unbroken :=
  inferInstanceAs (Decidable (∀ node ∈ plan.nodes, ∀ word ∈ node.operator.words, Text.Unbroken word))

theorem TableRef.unbroken_text {table : TableRef} (unbroken : ∀ word ∈ table.words, Unbroken word) :
    Unbroken table.text :=
  unbroken_intercalate (by decide) unbroken

theorem DataType.unbroken_declared (type : DataType) : Unbroken type.declared := by
  have base : Unbroken type.base.keyword := by cases type.base <;> decide
  have dimensions : Unbroken (commaList (type.dimensions.map dimensionText)) := by
    apply unbroken_commaList
    intro text member
    obtain ⟨dimension, -, rfl⟩ := List.mem_map.mp member
    cases dimension with
    | none => decide
    | some size => exact unbroken_nat size
  unfold declared
  rw [unbroken_append, unbroken_append]
  refine ⟨⟨base, ?_⟩, ?_⟩
  · cases type.element with
    | none => decide
    | some element => cases element <;> decide
  · split
    · decide
    · rw [unbroken_append, unbroken_append]
      exact ⟨⟨by decide, dimensions⟩, by decide⟩

/-- Declarations of columns and parameters: a name and a type. -/
theorem unbroken_declarations {α : Type} {name : α → String} (type : α → DataType) {items : List α}
    (unbroken : ∀ word ∈ items.map name, Unbroken word) :
    Unbroken (commaList (items.map fun item => name item ++ " " ++ (type item).declared)) := by
  apply unbroken_commaList
  intro text member
  obtain ⟨item, kept, rfl⟩ := List.mem_map.mp member
  have first := unbroken (name item) (List.mem_map_of_mem kept)
  rw [unbroken_append, unbroken_append]
  exact ⟨⟨first, by decide⟩, (type item).unbroken_declared⟩

namespace Operator

theorem unbroken_inParens {text : String} (unbroken : Unbroken text) : Unbroken (inParens text) := by
  unfold inParens
  rw [unbroken_append, unbroken_append]
  exact ⟨⟨by decide, unbroken⟩, by decide⟩

theorem unbroken_missingText (ifNotExists : Bool) : Unbroken (missingText ifNotExists) := by
  cases ifNotExists <;> decide

theorem unbroken_loaderName (path : String) : Unbroken (loaderName path) := by
  unfold loaderName
  split <;> decide

theorem unbroken_udfText {creation : UdfCreation}
    (unbroken : ∀ word ∈ (createUdf creation).words, Unbroken word) : Unbroken (udfText creation) := by
  obtain ⟨named, behind⟩ := List.forall_mem_cons.mp unbroken
  obtain ⟨parameters, others⟩ := List.forall_mem_append.mp behind
  obtain ⟨inputs, outputs⟩ := List.forall_mem_append.mp parameters
  obtain ⟨implementation, -⟩ := List.forall_mem_cons.mp others
  have declaredInputs := unbroken_inParens (unbroken_declarations UdfParameter.type inputs)
  have declaredOutputs := unbroken_inParens (unbroken_declarations UdfParameter.type outputs)
  unfold udfText
  simp only [unbroken_append]
  exact ⟨⟨⟨⟨⟨⟨named, by decide⟩, declaredInputs⟩, by decide⟩, declaredOutputs⟩, by decide⟩, implementation⟩

/-- The lines of an operator are unbroken if its names, paths and texts are; one case for each kind. -/
theorem unbroken_lines {operator : Operator} (unbroken : ∀ word ∈ operator.words, Unbroken word) :
    ∀ line ∈ operator.lines, Unbroken line := by
  cases operator with
  | get table dataset =>
    obtain ⟨ofTable, columns⟩ := List.forall_mem_append.mp unbroken
    have named := TableRef.unbroken_text ofTable
    have list := unbroken_commaList columns
    rw [lines, List.forall_mem_singleton]
    simp only [unbroken_append]
    exact ⟨⟨⟨⟨by decide, named⟩, by decide⟩, list⟩, by decide⟩
  | filter predicate =>
    have shown := Expr.unbroken_text predicate unbroken
    rw [lines, List.forall_mem_singleton]
    rw [unbroken_append]
    exact ⟨by decide, shown⟩
  | project targets =>
    have list := unbroken_commaList (Expr.unbroken_texts targets unbroken)
    rw [lines, List.forall_mem_singleton]
    simp only [unbroken_append]
    exact ⟨⟨by decide, list⟩, by decide⟩
  | insert table datasetId columns rows =>
    obtain ⟨ofTable, ofColumns⟩ := List.forall_mem_append.mp unbroken
    have named := TableRef.unbroken_text ofTable
    have list := unbroken_inParens (unbroken_commaList ofColumns)
    have count := unbroken_nat rows.length
    rw [lines, List.forall_mem_singleton]
    simp only [unbroken_append]
    exact ⟨⟨⟨⟨⟨⟨by decide, named⟩, by decide⟩, list⟩, by decide⟩, count⟩, by decide⟩
  | createTable table columns ifNotExists =>
    obtain ⟨ofTable, ofColumns⟩ := List.forall_mem_append.mp unbroken
    have named := TableRef.unbroken_text ofTable
    have list := unbroken_inParens (unbroken_declarations Column.type ofColumns)
    have missing := unbroken_missingText ifNotExists
    rw [lines, List.forall_mem_singleton]
    simp only [unbroken_append]
    exact ⟨⟨⟨⟨⟨by decide, missing⟩, by decide⟩, named⟩, by decide⟩, list⟩
  | createUdf creation =>
    have shown := unbroken_udfText unbroken
    have missing := unbroken_missingText creation.ifNotExists
    obtain ⟨-, others⟩ := List.forall_mem_append.mp unbroken
    obtain ⟨-, ofType⟩ := List.forall_mem_cons.mp others
    rw [lines, List.forall_mem_cons]
    constructor
    · simp only [unbroken_append]
      exact ⟨⟨⟨by decide, missing⟩, by decide⟩, shown⟩
    · intro line member
      obtain ⟨udfType, isType, rfl⟩ := Option.map_eq_some_iff.mp (Option.mem_toList.mp member)
      rw [unbroken_append]
      exact ⟨by decide, ofType udfType (Option.mem_toList.mpr isType)⟩
  | loadData dataset path =>
    obtain ⟨named, others⟩ := List.forall_mem_cons.mp unbroken
    have place : Unbroken path := others path (List.mem_singleton.mpr rfl)
    have count := unbroken_nat dataset.id
    have loader := unbroken_inParens (unbroken_loaderName path)
    rw [lines, List.forall_mem_singleton]
    unfold Dataset.label
    simp only [unbroken_append]
    exact ⟨⟨⟨⟨⟨by decide, ⟨named, by decide⟩, count⟩, by decide⟩, place⟩, by decide⟩, loader⟩

end Operator

/-! ## Plans -/

namespace Plan

theorem unbroken_indented (depth : Nat) {line : String} (unbroken : Text.Unbroken line) :
    Text.Unbroken (indented depth line) := by
  unfold indented
  rw [unbroken_append]
  refine ⟨?_, unbroken⟩
  induction depth with
  | zero => decide
  | succ depth ih =>
    rw [List.replicate_succ, String.join_cons, unbroken_append]
    exact ⟨by decide, ih⟩

mutual

theorem unbroken_lines (depth : Nat) : ∀ plan : Plan, plan.Unbroken →
    ∀ line ∈ plan.lines depth, Text.Unbroken line
  | .node operator children, unbroken => by
    obtain ⟨first, others⟩ := List.forall_mem_cons.mp unbroken
    rw [lines, List.forall_mem_append]
    constructor
    · intro line member
      obtain ⟨shown, isLine, rfl⟩ := List.mem_map.mp member
      exact unbroken_indented depth (Operator.unbroken_lines first shown isLine)
    · exact unbroken_linesOfAll (depth + 1) children others

theorem unbroken_linesOfAll (depth : Nat) : ∀ plans : List Plan,
    (∀ node ∈ nodesOfAll plans, ∀ word ∈ node.operator.words, Text.Unbroken word) →
    ∀ line ∈ linesOfAll depth plans, Text.Unbroken line
  | [], _ => by
    intro line member
    cases member
  | plan :: plans, unbroken => by
    obtain ⟨first, others⟩ := List.forall_mem_append.mp unbroken
    rw [linesOfAll, List.forall_mem_append]
    exact ⟨unbroken_lines depth plan first, unbroken_linesOfAll depth plans others⟩

end

end Plan

end VideoPlan
