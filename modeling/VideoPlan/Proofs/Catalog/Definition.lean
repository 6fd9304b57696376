import VideoPlan.Catalog.Definition
import VideoPlan.Proofs.Action
import VideoPlan.Proofs.Scope.Order

/-!
# Definitions of sound types

A definition is checked for its name, its element type and its dimensions. Where the types are sound only names
can be wrong: one may be missing, or one may be that of an earlier column but for case. The columns of the
definitions are then placed in their order, and a scope of them has them all.

* `check_of_isSound`: the check of a definition of a sound type;
* `toColumns_eq_ok_iff`, `toColumns_eq_error_iff`: the columns of a new table, or the first name that is wrong;
* `toParameters_eq_ok_iff`, `toParameters_eq_error_iff`: the same for the inputs or outputs of a function.
-/

namespace VideoPlan

open Text

/-- An array has elements; any other type has neither elements nor dimensions. -/
def DataType.IsSound (type : DataType) : Prop :=
  if type.base = .ndArray then type.element.isSome = true else type.element = none ∧ type.dimensions = []

namespace ColumnDefinition

/-- The name under which the column is found. -/
def key (definition : ColumnDefinition) : String :=
  lowercase definition.name

/-- What is wrong with the name of a definition behind columns with these names in lower case. -/
def nameFault? (taken : List String) (definition : ColumnDefinition) : Option Error :=
  if definition.name = "" then some (.bind .emptyColumnName)
  else if definition.key ∈ taken then some (.bind (.duplicateColumn definition.name))
  else none

/-- All definitions have names, no two of them the same but for case. -/
structure WellNamed (definitions : List ColumnDefinition) : Prop where
  named : ∀ definition ∈ definitions, definition.name ≠ ""
  distinct : (definitions.map key).Nodup

/-- The column that a definition declares at a position. -/
def columnAt (index : Nat) (definition : ColumnDefinition) : Column :=
  { name := definition.name, type := definition.type, nullable := definition.nullable, index }

/-- The input or output that a definition declares. -/
def parameter (isInput : Bool) (definition : ColumnDefinition) : UdfParameter :=
  { name := definition.name, type := definition.type, isInput }

/-! ## Checks -/

/-- Of a definition of a sound type only the name is checked. -/
theorem check_of_isSound {definition : ColumnDefinition} (sound : definition.type.IsSound) :
    definition.check =
      if definition.name = "" then .error (.bind .emptyColumnName) else .ok () := by
  unfold DataType.IsSound at sound
  unfold check
  simp only [String.isEmpty_iff]
  split
  · rfl
  · rcases definition with ⟨name, ⟨base, element, dimensions⟩, nullable⟩
    cases base with
    | ndArray =>
      obtain ⟨type, rfl⟩ := Option.isSome_iff_exists.mp sound
      rfl
    | _ =>
      obtain ⟨rfl, rfl⟩ := sound
      rfl

/-! ## Columns of a new table -/

/-- What is wrong with a definition, and else the columns behind it. -/
theorem toColumnsFrom_cons {definition : ColumnDefinition} (sound : definition.type.IsSound) (index : Nat)
    (taken : List String) (definitions : List ColumnDefinition) :
    toColumnsFrom index taken (definition :: definitions) =
      match definition.nameFault? taken with
      | some error => .error error
      | none =>
        (definition.columnAt index :: ·) <$> toColumnsFrom (index + 1) (definition.key :: taken) definitions := by
  rw [toColumnsFrom, check_of_isSound sound]
  unfold nameFault?
  split
  · rfl
  · show (if taken.contains definition.key then _ else _) = _
    simp only [List.contains_iff_mem]
    split
    · rfl
    · exact bind_pure_comp ..

theorem nameFault?_eq_none {taken : List String} {definition : ColumnDefinition} :
    definition.nameFault? taken = none ↔ definition.name ≠ "" ∧ definition.key ∉ taken := by
  unfold nameFault?
  split
  · simp [*]
  · split <;> simp [*]

theorem nameFault?_congr {taken taken' : List String} (same : ∀ key, key ∈ taken ↔ key ∈ taken')
    (definition : ColumnDefinition) : definition.nameFault? taken = definition.nameFault? taken' := by
  simp only [nameFault?, same]

/-- The definitions are well named, also beside columns with these names in lower case. -/
def WellNamedBeside (taken : List String) (definitions : List ColumnDefinition) : Prop :=
  WellNamed definitions ∧ ∀ definition ∈ definitions, definition.key ∉ taken

theorem wellNamedBeside_nil (taken : List String) : WellNamedBeside taken [] :=
  ⟨⟨nofun, List.nodup_nil⟩, nofun⟩

@[simp] theorem wellNamedBeside_none {definitions : List ColumnDefinition} :
    WellNamedBeside [] definitions ↔ WellNamed definitions :=
  ⟨And.left, fun wellNamed => ⟨wellNamed, fun _ _ => List.not_mem_nil⟩⟩

/-- The first of well-named definitions has a name of its own, and the others stand beside it too. -/
theorem wellNamedBeside_cons {taken : List String} {definition : ColumnDefinition}
    {definitions : List ColumnDefinition} :
    WellNamedBeside taken (definition :: definitions) ↔
      definition.nameFault? taken = none ∧ WellNamedBeside (definition.key :: taken) definitions := by
  rw [nameFault?_eq_none]
  constructor
  · rintro ⟨wellNamed, fresh⟩
    obtain ⟨named, others⟩ := List.forall_mem_cons.mp wellNamed.named
    obtain ⟨first, distinct⟩ := List.nodup_cons.mp wellNamed.distinct
    obtain ⟨free, behind⟩ := List.forall_mem_cons.mp fresh
    refine ⟨⟨named, free⟩, ⟨others, distinct⟩, fun other kept known => ?_⟩
    rcases List.mem_cons.mp known with same | known
    · exact first (List.mem_map.mpr ⟨other, kept, same⟩)
    · exact behind other kept known
  · rintro ⟨⟨named, free⟩, wellNamed, fresh⟩
    refine ⟨⟨List.forall_mem_cons.mpr ⟨named, wellNamed.named⟩, ?_⟩, ?_⟩
    · refine List.nodup_cons.mpr ⟨fun member => ?_, wellNamed.distinct⟩
      obtain ⟨other, kept, same⟩ := List.mem_map.mp member
      exact fresh other kept (same ▸ List.mem_cons_self)
    · exact List.forall_mem_cons.mpr
        ⟨free, fun other kept known => fresh other kept (List.mem_cons_of_mem _ known)⟩

variable {definitions : List ColumnDefinition}

/-- Columns behind others, by induction on the definitions: each of them makes its name a taken one. -/
theorem toColumnsFrom_eq_ok_iff (sound : ∀ definition ∈ definitions, definition.type.IsSound) (index : Nat)
    (taken : List String) {columns : List Column} :
    toColumnsFrom index taken definitions = .ok columns ↔
      WellNamedBeside taken definitions ∧
        columns = definitions.mapIdx fun i definition => definition.columnAt (index + i) := by
  induction definitions generalizing index taken columns with
  | nil =>
    constructor
    · intro declared
      cases declared
      exact ⟨wellNamedBeside_nil taken, rfl⟩
    · rintro ⟨-, rfl⟩
      rfl
  | cons definition definitions ih =>
    obtain ⟨soundFirst, soundOthers⟩ := List.forall_mem_cons.mp sound
    have shift (i : Nat) : index + 1 + i = index + (i + 1) := by omega
    rw [toColumnsFrom_cons soundFirst, List.mapIdx_cons, wellNamedBeside_cons]
    cases definition.nameFault? taken with
    | some error => simp
    | none =>
      simp only [map_eq_ok, ih soundOthers, shift, true_and]
      constructor
      · rintro ⟨_, ⟨wellNamed, rfl⟩, rfl⟩
        exact ⟨wellNamed, rfl⟩
      · rintro ⟨wellNamed, rfl⟩
        exact ⟨_, ⟨wellNamed, rfl⟩, rfl⟩

theorem toColumnsFrom_eq_error_iff (sound : ∀ definition ∈ definitions, definition.type.IsSound) (index : Nat)
    (taken : List String) {error : Error} :
    toColumnsFrom index taken definitions = .error error ↔
      ∃ before definition after, definitions = before ++ definition :: after ∧
        WellNamedBeside taken before ∧ definition.nameFault? (before.map key ++ taken) = some error := by
  induction definitions generalizing index taken with
  | nil =>
    constructor
    · exact nofun
    · rintro ⟨before, definition, after, split, -⟩
      cases List.append_eq_nil_iff.mp split.symm |>.2
  | cons definition definitions ih =>
    obtain ⟨soundFirst, soundOthers⟩ := List.forall_mem_cons.mp sound
    rw [toColumnsFrom_cons soundFirst]
    constructor
    · cases fault : definition.nameFault? taken with
      | some error' =>
        intro failed
        cases failed
        exact ⟨[], definition, definitions, rfl, wellNamedBeside_nil taken, fault⟩
      | none =>
        intro failed
        obtain ⟨before, wrong, after, rfl, wellNamed, fault'⟩ :=
          (ih soundOthers _ _).mp (map_eq_error.mp failed)
        refine ⟨definition :: before, wrong, after, rfl, wellNamedBeside_cons.mpr ⟨fault, wellNamed⟩, ?_⟩
        rw [← fault']
        exact nameFault?_congr (by simp [or_left_comm]) wrong
    · rintro ⟨before, wrong, after, split, wellNamed, fault⟩
      cases before with
      | nil =>
        obtain ⟨rfl, rfl⟩ := List.cons.inj split
        rw [List.map_nil, List.nil_append] at fault
        rw [fault]
      | cons first before =>
        obtain ⟨rfl, rfl⟩ := List.cons.inj split
        obtain ⟨none, wellNamed⟩ := wellNamedBeside_cons.mp wellNamed
        rw [none]
        refine map_eq_error.mpr ((ih soundOthers _ _).mpr ⟨before, wrong, after, rfl, wellNamed, ?_⟩)
        rw [← fault]
        exact nameFault?_congr (by simp [or_left_comm]) wrong

/-- A new table has a column for each definition, at its position, if the definitions are well named. -/
theorem toColumns_eq_ok_iff (sound : ∀ definition ∈ definitions, definition.type.IsSound)
    {columns : List Column} :
    toColumns definitions = .ok columns ↔ WellNamed definitions ∧ columns = definitions.mapIdx columnAt := by
  rw [toColumns, toColumnsFrom_eq_ok_iff sound, wellNamedBeside_none]
  simp only [Nat.zero_add]

/-- A new table fails at the first definition whose name is wrong behind well-named ones. -/
theorem toColumns_eq_error_iff (sound : ∀ definition ∈ definitions, definition.type.IsSound) {error : Error} :
    toColumns definitions = .error error ↔
      ∃ before definition after, definitions = before ++ definition :: after ∧
        WellNamed before ∧ definition.nameFault? (before.map key) = some error := by
  simp only [toColumns, toColumnsFrom_eq_error_iff sound, wellNamedBeside_none, List.append_nil]

/-! ## Inputs and outputs of a function -/

theorem toParameters_eq_ok_iff (sound : ∀ definition ∈ definitions, definition.type.IsSound) (isInput : Bool)
    {parameters : List UdfParameter} :
    toParameters isInput definitions = .ok parameters ↔
      (∀ definition ∈ definitions, definition.name ≠ "") ∧
        parameters = definitions.map (parameter isInput) := by
  induction definitions generalizing parameters with
  | nil =>
    constructor
    · intro declared
      cases declared
      exact ⟨nofun, rfl⟩
    · rintro ⟨-, rfl⟩
      rfl
  | cons definition definitions ih =>
    obtain ⟨soundFirst, soundOthers⟩ := List.forall_mem_cons.mp sound
    rw [toParameters, check_of_isSound soundFirst, List.forall_mem_cons]
    split
    · rename_i unnamed
      exact ⟨nofun, fun ⟨⟨named, _⟩, _⟩ => absurd unnamed named⟩
    · rename_i named
      show toParameters isInput definitions >>= _ = _ ↔ _
      simp only [bind_eq_ok, pure_eq_ok, ih soundOthers]
      constructor
      · rintro ⟨_, ⟨others, rfl⟩, rfl⟩
        exact ⟨⟨named, others⟩, rfl⟩
      · rintro ⟨⟨-, others⟩, rfl⟩
        exact ⟨_, ⟨others, rfl⟩, rfl⟩

theorem toParameters_eq_error_iff (sound : ∀ definition ∈ definitions, definition.type.IsSound)
    (isInput : Bool) {error : Error} :
    toParameters isInput definitions = .error error ↔
      error = .bind .emptyColumnName ∧ ∃ definition ∈ definitions, definition.name = "" := by
  induction definitions with
  | nil =>
    constructor
    · exact nofun
    · rintro ⟨-, definition, member, -⟩
      cases member
  | cons definition definitions ih =>
    obtain ⟨soundFirst, soundOthers⟩ := List.forall_mem_cons.mp sound
    rw [toParameters, check_of_isSound soundFirst, List.exists_mem_cons_iff]
    split
    · rename_i unnamed
      constructor
      · intro failed
        cases failed
        exact ⟨rfl, .inl unnamed⟩
      · rintro ⟨rfl, -⟩
        rfl
    · rename_i named
      show toParameters isInput definitions >>= _ = _ ↔ _
      rw [bind_eq_error, ih soundOthers, or_iff_right named]
      exact or_iff_left fun ⟨_, _, failed⟩ => nomatch failed

/-! ## The scope of a new table -/

theorem increasing_columnAt (definitions : List ColumnDefinition) :
    (definitions.mapIdx columnAt).Pairwise fun a b => a.index < b.index := by
  rw [List.pairwise_iff_getElem]
  intro i j bound bound' less
  simpa [columnAt] using less

theorem names_columnAt (definitions : List ColumnDefinition) :
    ((definitions.mapIdx columnAt).map fun column => lowercase column.name) = definitions.map key :=
  List.ext_getElem (by simp) fun i _ _ => by simp [columnAt, key]

/-- Columns of well-named definitions do not shadow each other. -/
theorem WellNamed.unshadowed_columnAt (wellNamed : WellNamed definitions) :
    Scope.unshadowed (definitions.mapIdx columnAt) = definitions.mapIdx columnAt :=
  Scope.unshadowed_of_nodup (names_columnAt definitions ▸ wellNamed.distinct)

end ColumnDefinition

end VideoPlan
