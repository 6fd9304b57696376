import VideoPlan.Proofs.Action
import VideoPlan.Proofs.Catalog.WellFormed
import VideoPlan.Proofs.Expr.Order
import VideoPlan.Proofs.Scope.Order

/-!
# The items of a SELECT list

Items are bound one after the other, and what they come to is put together in their order. A wildcard stands
for columns of the scope, whose entries have no order of their own. For a dataset of a catalog the order in
which they are enumerated does not matter: its columns have positions, and a wildcard stands for those that no
later column shadows, by position.

* `bindEach_eq_ok_iff`, `bindEach_eq_error_iff`: the items together, by what each of them comes to;
* `itemFrom_eq_itemResult`: an item alone, in whatever order the entries are enumerated;
* `items_bound_in_place`: the main statement.
-/

namespace VideoPlan

open Text

namespace Expr

/-! ## One item after the other -/

/-- The expressions of all items, or the first failure. -/
def bindEach (bindItem : Sql.SelectItem → Except Error (List Expr)) :
    List Sql.SelectItem → Except Error (List Expr)
  | [] => .ok []
  | item :: items => do
    let exprs ← bindItem item
    return exprs ++ (← bindEach bindItem items)

theorem ofItems_eq_bindEach (scope : Option Scope) (items : List Sql.SelectItem) :
    ofItems scope items = bindEach (ofItem scope) items := by
  induction items with
  | nil => rfl
  | cons item items ih => rw [ofItems, bindEach, ih]

section

variable {bindItem : Sql.SelectItem → Except Error (List Expr)}

/-- Items succeed exactly if each of them does, and then their expressions follow in order. -/
theorem bindEach_eq_ok_iff {items : List Sql.SelectItem} {exprs : List Expr} :
    bindEach bindItem items = .ok exprs ↔
      ∃ parts, List.Forall₂ (fun item part => bindItem item = .ok part) items parts ∧
        exprs = parts.flatten := by
  induction items generalizing exprs with
  | nil =>
    constructor
    · intro bound
      cases bound
      exact ⟨[], .nil, rfl⟩
    · rintro ⟨_, each, rfl⟩
      cases each
      rfl
  | cons item items ih =>
    simp only [bindEach, bind_eq_ok, pure_eq_ok, ih]
    constructor
    · rintro ⟨part, first, _, ⟨parts, each, rfl⟩, rfl⟩
      exact ⟨part :: parts, .cons first each, rfl⟩
    · rintro ⟨_, each, rfl⟩
      cases each with
      | cons first each => exact ⟨_, first, _, ⟨_, each, rfl⟩, rfl⟩

/-- Items fail exactly as the first of them that fails. -/
theorem bindEach_eq_error_iff {items : List Sql.SelectItem} {error : Error} :
    bindEach bindItem items = .error error ↔
      ∃ before item after, items = before ++ item :: after ∧
        (∀ earlier ∈ before, ∃ part, bindItem earlier = .ok part) ∧ bindItem item = .error error := by
  induction items with
  | nil => simp [bindEach]
  | cons first items ih =>
    have failed_iff : bindEach bindItem (first :: items) = .error error ↔
        bindItem first = .error error ∨
          ∃ part, bindItem first = .ok part ∧ bindEach bindItem items = .error error := by
      have noFailure (part exprs : List Expr) : (pure (part ++ exprs) : Except Error _) ≠ .error error :=
        nofun
      simp only [bindEach, bind_eq_error, noFailure, and_false, exists_false, or_false]
    rw [failed_iff, ih]
    constructor
    · rintro (failed | ⟨part, succeeds, before, item, after, rfl, earlier, failed⟩)
      · exact ⟨[], first, items, rfl, nofun, failed⟩
      · exact ⟨first :: before, item, after, rfl, List.forall_mem_cons.mpr ⟨⟨part, succeeds⟩, earlier⟩, failed⟩
    · rintro ⟨before, item, after, split, earlier, failed⟩
      cases before with
      | nil =>
        obtain ⟨rfl, -⟩ := List.cons.inj split
        exact .inl failed
      | cons _ before =>
        obtain ⟨rfl, behind⟩ := List.cons.inj split
        obtain ⟨⟨part, succeeds⟩, earlier⟩ := List.forall_mem_cons.mp earlier
        exact .inr ⟨part, succeeds, before, item, after, behind, earlier, failed⟩

end

/-! ## One item alone -/

/-- Binds an item, where the entries of the scope are enumerated in some order. -/
def itemFrom (scope : Scope) (enumeration : List (String × Column)) :
    Sql.SelectItem → Except Error (List Expr)
  | .wildcard _ =>
    if scope.isEmpty then .error (.bind .wildcardWithoutTable)
    else .ok ((Scope.byPosition enumeration).map .column)
  | item => ofItem (some scope) item

/-- What an item comes to over the table of a dataset. A wildcard stands for the columns that no later one
shadows. -/
def itemResult (dataset : Dataset) : Sql.SelectItem → Except Error (List Expr)
  | .plain sql => ([·]) <$> ofSql (some (.ofDataset dataset)) sql
  | .aliased sql label => ([.aliased · label.value]) <$> ofSql (some (.ofDataset dataset)) sql
  | .wildcard _ => .ok ((Scope.unshadowed dataset.columns).map .column)
  | .qualifiedWildcard name _ => .error (.notImplemented (.qualifiedWildcard (Sql.dotted name)))

section

variable {dataset : Dataset} (nonempty : dataset.columns ≠ [])
  (increasing : dataset.columns.Pairwise fun a b => a.index < b.index)
include nonempty

theorem isEmpty_ofDataset : (Scope.ofDataset dataset).isEmpty = false := by
  rw [Bool.eq_false_iff]
  exact fun none => nonempty ((Scope.isEmpty_ofColumns dataset.columns).mp none)

include increasing

theorem itemFrom_eq_itemResult {enumeration : List (String × Column)}
    (any : enumeration.Perm (Scope.ofDataset dataset).entries) (item : Sql.SelectItem) :
    itemFrom (.ofDataset dataset) enumeration item = itemResult dataset item := by
  cases item with
  | plain sql => exact bind_pure_comp ..
  | aliased sql label => exact bind_pure_comp ..
  | wildcard options =>
    have listed := Scope.byPosition_ofColumns increasing any
    simp [itemFrom, itemResult, isEmpty_ofDataset nonempty, listed]
  | qualifiedWildcard name options => rfl

theorem ofItem_eq_itemResult (item : Sql.SelectItem) :
    ofItem (some (.ofDataset dataset)) item = itemResult dataset item := by
  cases item with
  | plain sql => exact bind_pure_comp ..
  | aliased sql label => exact bind_pure_comp ..
  | wildcard options =>
    have listed : (Scope.ofDataset dataset).columnsInOrder = Scope.unshadowed dataset.columns :=
      Scope.columnsInOrder_ofColumns increasing
    simp [ofItem, itemResult, Option.filter, isEmpty_ofDataset nonempty, listed]
  | qualifiedWildcard name options => rfl

end

/-- Binding renames nothing. -/
theorem hasAlias_of_ofSql {scope : Option Scope} {sql : Sql.Expr} {expr : Expr}
    (bound : ofSql scope sql = .ok expr) : expr.hasAlias = false := by
  rw [ofSql_eq_reference, reference] at bound
  cases faults : (sql.walk false).findSome? (fault? scope) <;> rw [faults] at bound <;> cases bound
  exact hasAlias_translate scope sql

/-- An expression without other names in it, perhaps under another name as a whole. -/
def IsTarget (expr : Expr) : Prop :=
  expr.hasAlias = false ∨ ∃ operand label, expr = .aliased operand label ∧ operand.hasAlias = false

theorem isTarget_of_itemResult {dataset : Dataset} {item : Sql.SelectItem} {exprs : List Expr}
    (bound : itemResult dataset item = .ok exprs) : ∀ expr ∈ exprs, expr.IsTarget := by
  cases item with
  | plain sql =>
    obtain ⟨expr, hexpr, rfl⟩ := map_eq_ok.mp bound
    exact List.forall_mem_singleton.mpr (.inl (hasAlias_of_ofSql hexpr))
  | aliased sql label =>
    obtain ⟨expr, hexpr, rfl⟩ := map_eq_ok.mp bound
    exact List.forall_mem_singleton.mpr (.inr ⟨expr, label.value, rfl, hasAlias_of_ofSql hexpr⟩)
  | wildcard options =>
    cases bound
    intro expr member
    obtain ⟨column, -, rfl⟩ := List.mem_map.mp member
    exact .inl rfl
  | qualifiedWildcard name options => cases bound

theorem isTarget_of_bindEach {dataset : Dataset} {items : List Sql.SelectItem} {exprs : List Expr}
    (bound : bindEach (itemResult dataset) items = .ok exprs) : ∀ expr ∈ exprs, expr.IsTarget := by
  induction items generalizing exprs with
  | nil => cases bound; exact nofun
  | cons item items ih =>
    simp only [bindEach, bind_eq_ok, pure_eq_ok] at bound
    obtain ⟨part, hitem, rest, hitems, rfl⟩ := bound
    exact List.forall_mem_append.mpr ⟨isTarget_of_itemResult hitem, ih hitems⟩

end Expr

/-! ## Main statement -/

open VideoPlan.Expr

theorem Catalog.WellFormed.index_increasing {catalog : Catalog} (wellFormed : catalog.WellFormed)
    {dataset : Dataset} (member : dataset ∈ catalog.datasets) :
    dataset.columns.Pairwise fun a b => a.index < b.index := by
  refine List.pairwise_map.mp ?_
  rw [wellFormed.indices_eq dataset member]
  exact List.pairwise_lt_range

/-- In every catalog that is reached, for every dataset with columns and in whatever order the entries of its
scope are enumerated: the items of a SELECT list succeed exactly if each of them does, and then what they come to
follows in their order; else they fail as the first of them that fails. A wildcard comes to the columns that no
later column of the dataset shadows, by position, and other items to one expression, which has another name at
most as a whole. -/
theorem items_bound_in_place {catalog : Catalog} (reached : catalog.Reached) {dataset : Dataset}
    (member : dataset ∈ catalog.datasets) (nonempty : dataset.columns ≠ [])
    {enumeration : List (String × Column)} (any : enumeration.Perm (Scope.ofDataset dataset).entries)
    (items : List Sql.SelectItem) :
    let bound := bindEach (itemFrom (.ofDataset dataset) enumeration) items
    let shown := Scope.unshadowed dataset.columns
    bound = ofItems (some (.ofDataset dataset)) items ∧
    (∀ exprs, bound = .ok exprs ↔
      ∃ parts, List.Forall₂ (fun item part => itemResult dataset item = .ok part) items parts ∧
        exprs = parts.flatten) ∧
    (∀ error, bound = .error error ↔
      ∃ before item after, items = before ++ item :: after ∧
        (∀ earlier ∈ before, ∃ part, itemResult dataset earlier = .ok part) ∧
        itemResult dataset item = .error error) ∧
    (∀ exprs, bound = .ok exprs → ∀ expr ∈ exprs, expr.IsTarget) ∧
    shown.Sublist dataset.columns ∧ (shown.Pairwise fun a b => a.index < b.index) ∧
    ∀ column, column ∈ shown ↔ ∃ before later, dataset.columns = before ++ column :: later ∧
      ∀ other ∈ later, lowercase other.name ≠ lowercase column.name := by
  intro bound shown
  have increasing := reached.wellFormed.index_increasing member
  have same : itemFrom (.ofDataset dataset) enumeration = itemResult dataset :=
    funext (itemFrom_eq_itemResult nonempty increasing any)
  have same' : ofItem (some (.ofDataset dataset)) = itemResult dataset :=
    funext (ofItem_eq_itemResult nonempty increasing)
  have sublist := Scope.unshadowed_sublist dataset.columns
  dsimp only [bound]
  rw [ofItems_eq_bindEach, same, same']
  exact ⟨rfl, fun _ => bindEach_eq_ok_iff, fun _ => bindEach_eq_error_iff, fun _ => isTarget_of_bindEach,
    sublist, increasing.sublist sublist, fun column => Scope.mem_unshadowed⟩

/-- Two wildcards around a column under another name. The first column of the table is shadowed by the last one,
and the entries of the scope are enumerated backwards. -/
theorem items_bound_in_place_shadowed :
    let column (name : String) : Column := { name, type := { base := .integer } }
    let catalog := ((Catalog.Call.register "Clips" [column "id", column "label", column "ID"]).outcome .empty).2
    let wildcard : Sql.SelectItem := .wildcard ""
    let items := [wildcard, .aliased (.ident { value := "Label" }) { value := "l" }, wildcard]
    catalog.Reached ∧ ∃ dataset ∈ catalog.datasets, dataset.columns ≠ [] ∧
      let enumeration := (Scope.ofDataset dataset).entries.reverse
      enumeration.Perm (Scope.ofDataset dataset).entries ∧
      ∃ label id, label.name = "label" ∧ id.name = "ID" ∧
        bindEach (itemFrom (.ofDataset dataset) enumeration) items =
          .ok [.column label, .column id, .aliased (.column label) "l", .column label, .column id] := by
  intro column catalog wildcard items
  have reached : catalog.Reached := Catalog.Reached.empty.call _
  have known : ∃ dataset ∈ catalog.datasets, dataset.columns ≠ [] ∧
      ∃ label ∈ dataset.columns, ∃ id ∈ dataset.columns, label.name = "label" ∧ id.name = "ID" ∧
        Scope.unshadowed dataset.columns = [label, id] ∧
        (Scope.ofDataset dataset).find? "Label" = some label := by
    decide +kernel
  obtain ⟨dataset, member, nonempty, label, -, id, -, isLabel, isId, shown, found⟩ := known
  have any : (Scope.ofDataset dataset).entries.reverse.Perm (Scope.ofDataset dataset).entries :=
    List.reverse_perm _
  refine ⟨reached, dataset, member, nonempty, any, label, id, isLabel, isId, ?_⟩
  have all : itemResult dataset wildcard = .ok [.column label, .column id] := by
    rw [itemResult, shown]
    rfl
  have named : itemResult dataset (.aliased (.ident { value := "Label" }) { value := "l" }) =
      .ok [.aliased (.column label) "l"] := by
    rw [itemResult, ofSql, ofName, Scope.resolve, found]
    rfl
  obtain ⟨-, succeeds_iff, -⟩ := items_bound_in_place reached member nonempty any items
  exact (succeeds_iff _).mpr ⟨_, .cons all (.cons named (.cons all .nil)), rfl⟩

end VideoPlan
