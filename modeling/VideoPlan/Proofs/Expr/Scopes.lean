import VideoPlan.Proofs.Entries
import VideoPlan.Proofs.Expr.Order

/-!
# Expressions in another scope

A scope is asked about the names of an expression and about nothing else, and about a name by its last part in
lower case. So an expression comes to the same in two scopes that have the same columns under these keys
(`ofSql_congr`). If it can be bound, each of its keys has a column, so it can be bound in every larger scope
(`ofSql_of_extends`). Where there is no scope nothing has a column, as in the scope without columns.

Main statement: `bound_by_names`.
-/

namespace VideoPlan

/-! ## Keys -/

namespace Sql.Expr

/-- The key under which a scope is asked about a node: the last part of a name, in lower case. -/
def key? : Expr → Option String
  | .ident name => some (Text.lowercase name.value)
  | .compound parts => parts.getLast?.map fun part => Text.lowercase part.value
  | _ => none

/-- The keys of the names in an expression. A form that is refused as it stands is not looked into. -/
def keys (sql : Expr) : List String :=
  (sql.walk false).filterMap key?

/-- The keys of the names in expressions. -/
def keysOfAll (sqls : List Expr) : List String :=
  (walkAll false sqls).filterMap key?

section

variable (operand left right low high pattern : Expr) (list args sqls : List Expr)

attribute [local simp] walk walkAll key?

@[simp] theorem keys_binary (op : BinaryOperator) :
    keys (.binary op left right) = left.keys ++ right.keys := by
  simp [keys]

@[simp] theorem keys_unary (op : UnaryOperator) : keys (.unary op operand) = operand.keys := by
  simp [keys]

@[simp] theorem keys_isNull : keys (.isNull operand) = operand.keys := by
  simp [keys]

@[simp] theorem keys_isNotNull : keys (.isNotNull operand) = operand.keys := by
  simp [keys]

@[simp] theorem keys_nested : keys (.nested operand) = operand.keys := by
  simp [keys]

@[simp] theorem keys_between (negated : Bool) :
    keys (.between negated operand low high) = operand.keys ++ low.keys ++ high.keys := by
  simp [keys]

@[simp] theorem keys_inList (negated : Bool) :
    keys (.inList negated operand list) = operand.keys ++ keysOfAll list := by
  simp [keys, keysOfAll]

@[simp] theorem keys_like (negated any : Bool) (escape : Option String) :
    keys (.like negated any operand pattern escape) = operand.keys ++ pattern.keys := by
  simp [keys]

@[simp] theorem keys_call (name : ObjectName) (clauses : CallClauses) :
    keys (.call name args clauses) = keysOfAll args := by
  simp [keys, keysOfAll]

@[simp] theorem keysOfAll_cons : keysOfAll (operand :: sqls) = operand.keys ++ keysOfAll sqls := by
  simp [keys, keysOfAll]

end

end Sql.Expr

/-- The column under a key; where there is no scope there is none. -/
def Scope.columnUnder? (scope : Option Scope) (key : String) : Option Column :=
  scope.bind (·.entries.lookup key)

namespace Expr

open Scope (columnUnder?)

/-! ## The same columns under all keys -/

section

variable {scope scope' : Option Scope}

theorem ofName_congr {name : String}
    (same : columnUnder? scope (Text.lowercase name) = columnUnder? scope' (Text.lowercase name)) :
    ofName scope name = ofName scope' name := by
  have sameColumn : column? scope name = column? scope' name := same
  simp only [ofName_eq_verdict, nameFault?, nameMeaning, sameColumn]

theorem ofParts_congr {parts : List Sql.Ident}
    (same : ∀ key ∈ Sql.Expr.key? (.compound parts), columnUnder? scope key = columnUnder? scope' key) :
    ofParts scope parts = ofParts scope' parts := by
  unfold ofParts
  cases last : parts.getLast? with
  | none => rfl
  | some part =>
    have asked : Sql.Expr.key? (.compound parts) = some (Text.lowercase part.value) := by
      rw [Sql.Expr.key?, last, Option.map_some]
    simp only [ofName_congr (same _ asked)]

mutual

/-- The induction is on the expression and on the lists in it; the keys of an operand are among its keys. -/
theorem ofSql_congr : ∀ sql : Sql.Expr,
    (∀ key ∈ sql.keys, columnUnder? scope key = columnUnder? scope' key) →
    ofSql scope sql = ofSql scope' sql
  | .ident name, same => ofName_congr (same _ (by simp [Sql.Expr.keys, Sql.Expr.walk, Sql.Expr.key?]))
  | .compound parts, same => by
    rw [ofSql, ofSql]
    refine ofParts_congr fun key asked => same key ?_
    exact List.mem_filterMap.mpr ⟨.compound parts, by simp [Sql.Expr.walk], asked⟩
  | .constant value, same => by rw [ofSql, ofSql]
  | .binary op left right, same => by
    rw [Sql.Expr.keys_binary, List.forall_mem_append] at same
    rw [ofSql, ofSql, ofSql_congr left same.1, ofSql_congr right same.2]
  | .unary op operand, same => by
    rw [Sql.Expr.keys_unary] at same
    rw [ofSql, ofSql, ofSql_congr operand same]
  | .isNull operand, same => by
    rw [Sql.Expr.keys_isNull] at same
    rw [ofSql, ofSql, ofSql_congr operand same]
  | .isNotNull operand, same => by
    rw [Sql.Expr.keys_isNotNull] at same
    rw [ofSql, ofSql, ofSql_congr operand same]
  | .nested inner, same => by
    rw [Sql.Expr.keys_nested] at same
    rw [ofSql, ofSql, ofSql_congr inner same]
  | .between negated operand low high, same => by
    simp only [Sql.Expr.keys_between, List.forall_mem_append] at same
    obtain ⟨⟨hoperand, hlow⟩, hhigh⟩ := same
    rw [ofSql, ofSql, ofSql_congr operand hoperand, ofSql_congr low hlow, ofSql_congr high hhigh]
  | .inList negated operand list, same => by
    rw [Sql.Expr.keys_inList, List.forall_mem_append] at same
    rw [ofSql, ofSql, ofSql_congr operand same.1, ofSqlList_congr list same.2]
  | .like negated any operand pattern escape, same => by
    rw [Sql.Expr.keys_like, List.forall_mem_append] at same
    rw [ofSql, ofSql, ofSql_congr operand same.1, ofSql_congr pattern same.2]
  | .call name args clauses, same => by
    rw [Sql.Expr.keys_call] at same
    rw [ofSql, ofSql, ofSqlList_congr args same]
  -- the others ask for no column
  | .bareCall name, same => by rw [ofSql, ofSql]
  | .isTrue operand, same => by rw [ofSql, ofSql]
  | .queryCall name query, same => by rw [ofSql, ofSql]
  | .argument text, same => by rw [ofSql, ofSql]
  | .subquery query, same => by rw [ofSql, ofSql]
  | .other text, same => by rw [ofSql, ofSql]

theorem ofSqlList_congr : ∀ sqls : List Sql.Expr,
    (∀ key ∈ Sql.Expr.keysOfAll sqls, columnUnder? scope key = columnUnder? scope' key) →
    ofSqlList scope sqls = ofSqlList scope' sqls
  | [], same => by rw [ofSqlList, ofSqlList]
  | sql :: sqls, same => by
    rw [Sql.Expr.keysOfAll_cons, List.forall_mem_append] at same
    rw [ofSqlList, ofSqlList, ofSql_congr sql same.1, ofSqlList_congr sqls same.2]

end

/-! ## Larger scopes -/

theorem exists_column_of_nameFault? {name : String} (sound : nameFault? scope name = none) :
    ∃ column, column? scope name = some column := by
  unfold nameFault? at sound
  split at sound
  · exact Option.isSome_iff_exists.mp ‹_›
  · cases sound

/-- A name without a fault has a column under its key. -/
theorem exists_column_of_fault? {node : Sql.Expr} {key : String} (sound : fault? scope node = none)
    (asked : node.key? = some key) : ∃ column, columnUnder? scope key = some column := by
  cases node with
  | ident name =>
    cases asked
    exact exists_column_of_nameFault? sound
  | compound parts =>
    obtain ⟨last, isLast, rfl⟩ := Option.map_eq_some_iff.mp asked
    simp only [fault?, partsFault?, nameOf?, isLast] at sound
    split at sound
    · rename_i name few
      split at few <;> cases few
      exact exists_column_of_nameFault? sound
    · cases sound
  | _ => cases asked

theorem exists_column_of_ofSql {sql : Sql.Expr} {expr : Expr} (bound : ofSql scope sql = .ok expr) :
    ∀ key ∈ sql.keys, ∃ column, columnUnder? scope key = some column := by
  rw [ofSql_eq_reference, reference, verdict_eq_ok, List.findSome?_eq_none_iff] at bound
  intro key member
  obtain ⟨node, visited, asked⟩ := List.mem_filterMap.mp member
  exact exists_column_of_fault? (bound.1 node visited) asked

/-- What can be bound comes to the same in every larger scope. -/
theorem ofSql_of_extends
    (larger : ∀ key column, columnUnder? scope key = some column → columnUnder? scope' key = some column)
    {sql : Sql.Expr} {expr : Expr} (bound : ofSql scope sql = .ok expr) : ofSql scope' sql = .ok expr := by
  rw [← bound]
  refine (ofSql_congr sql fun key member => ?_).symm
  obtain ⟨column, found⟩ := exists_column_of_ofSql bound key member
  rw [found, larger key column found]

end

theorem extends_of_keys {scope scope' : Scope}
    (same : ∀ key ∈ scope.keys, scope.entries.lookup key = scope'.entries.lookup key) (key : String)
    (column : Column) (found : columnUnder? (some scope) key = some column) :
    columnUnder? (some scope') key = some column := by
  have member : key ∈ scope.keys := List.mem_map_of_mem (mem_of_lookup found)
  exact (same key member).symm.trans found

/-! ## No scope -/

theorem ofSql_none (sql : Sql.Expr) : ofSql none sql = ofSql (some .empty) sql :=
  ofSql_congr sql fun _ _ => rfl

theorem ofItem_none (item : Sql.SelectItem) : ofItem none item = ofItem (some .empty) item := by
  cases item with
  | plain sql => rw [ofItem, ofItem, ofSql_none]
  | aliased sql label => rw [ofItem, ofItem, ofSql_none]
  | wildcard options => rfl
  | qualifiedWildcard name options => rfl

theorem ofItems_none (items : List Sql.SelectItem) : ofItems none items = ofItems (some .empty) items := by
  induction items with
  | nil => rfl
  | cons item items ih => rw [ofItems, ofItems, ofItem_none, ih]

/-- Values are bound each by itself, and to the same wherever they stand. -/
theorem ofSql_of_ofRows {rows : List (List Sql.Expr)} {values : List (List Expr)}
    (bound : ofRows rows = .ok values) :
    List.Forall₂ (List.Forall₂ fun sql value => ∀ scope, ofSql scope sql = .ok value) rows values := by
  induction rows generalizing values with
  | nil =>
    cases bound
    exact .nil
  | cons row rows ih =>
    simp only [ofRows, bind_eq_ok, pure_eq_ok] at bound
    obtain ⟨rowValues, hrow, values, hrows, rfl⟩ := bound
    refine .cons ((ofSql_of_ofSqlList hrow).imp fun sql value constant scope => ?_) (ih hrows)
    exact ofSql_of_extends (fun key column found => by cases found) constant

/-! ## Main statement -/

/-- Binding an expression comes to the same in two scopes that have the same columns under its keys, also where
it fails. In particular what can be bound in one scope comes to the same in every scope that has its columns
under their keys. Expressions and the items of a SELECT list come to the same without a scope and in the scope
without columns, so a value that can stand in a row comes to the same in every scope. -/
theorem bound_by_names :
    (∀ (sql : Sql.Expr) (scope scope' : Scope),
      (∀ key ∈ sql.keys, scope.entries.lookup key = scope'.entries.lookup key) →
      ofSql (some scope) sql = ofSql (some scope') sql) ∧
    (∀ (sql : Sql.Expr) (scope scope' : Scope),
      (∀ key ∈ scope.keys, scope.entries.lookup key = scope'.entries.lookup key) →
      ∀ expr, ofSql (some scope) sql = .ok expr → ofSql (some scope') sql = .ok expr) ∧
    (∀ sql, ofSql none sql = ofSql (some .empty) sql) ∧
    (∀ items, ofItems none items = ofItems (some .empty) items) ∧
    ∀ rows values, ofRows rows = .ok values →
      List.Forall₂ (List.Forall₂ fun sql value => ∀ scope, ofSql scope sql = .ok value) rows values := by
  refine ⟨?_, ?_, ofSql_none, ofItems_none, fun _ _ => ofSql_of_ofRows⟩
  · intro sql scope scope' same
    exact ofSql_congr sql same
  · intro sql scope scope' same expr bound
    exact ofSql_of_extends (extends_of_keys same) bound

/-- A name with a qualifier in capitals, and a call of a function, in a scope with one more column. -/
theorem bound_by_names_label :
    let column (name : String) : Column := { name, type := { base := .text } }
    let scope := Scope.ofColumns [column "Label"]
    let scope' := Scope.ofColumns [column "id", column "Label"]
    let label : Sql.Expr := .compound [{ value := "t" }, { value := "LABEL" }]
    let sql : Sql.Expr := .binary .eq label (.call [{ value := "Class" }] [label] {})
    let expr : Expr := .binary .eq (.column (column "Label")) (.call "CLASS" [.column (column "Label")])
    (∀ key ∈ sql.keys, scope.entries.lookup key = scope'.entries.lookup key) ∧
    (∀ key ∈ scope.keys, scope.entries.lookup key = scope'.entries.lookup key) ∧
    scope ≠ scope' ∧ ofSql (some scope) sql = .ok expr ∧ ofSql (some scope') sql = .ok expr := by
  intro column scope scope' label sql expr
  have sameUnderNames : ∀ key ∈ sql.keys, scope.entries.lookup key = scope'.entries.lookup key := by
    decide +kernel
  have sameUnderKeys : ∀ key ∈ scope.keys, scope.entries.lookup key = scope'.entries.lookup key := by
    decide +kernel
  have named : ofSql (some scope) label = .ok (.column (column "Label")) := by
    have found : scope.find? "LABEL" = some (column "Label") := by decide +kernel
    simp [label, ofSql, ofParts, ofName, Scope.resolve, found]
  have bound : ofSql (some scope) sql = .ok expr := by
    simp [sql, ofSql, ofSqlList, named]
    rfl
  refine ⟨sameUnderNames, sameUnderKeys, by decide +kernel, bound, ?_⟩
  obtain ⟨-, larger, -⟩ := bound_by_names
  exact larger sql scope scope' sameUnderKeys expr bound

end Expr

end VideoPlan
