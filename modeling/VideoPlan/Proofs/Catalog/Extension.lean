import VideoPlan.Binder
import VideoPlan.Catalog.Store
import VideoPlan.Proofs.Action

/-!
# Catalogs only grow

A catalog extends another one if every name that has a dataset there has the same dataset here. Adding a
dataset extends the catalog, and no operation does anything else to it (`Step`): whatever fails leaves it as
it was.
-/

namespace VideoPlan.Catalog

open Text

/-- The case of a name does not matter. -/
theorem find?_congr (catalog : Catalog) {name name' : String}
    (same : lowercase name = lowercase name') : catalog.find? name = catalog.find? name' := by
  unfold find?
  rw [same]

/-- Every name that has a dataset keeps it. -/
def Extends (before after : Catalog) : Prop :=
  ∀ name dataset, before.find? name = some dataset → after.find? name = some dataset

theorem Extends.refl (catalog : Catalog) : Extends catalog catalog :=
  fun _ _ found => found

theorem Extends.trans {first second third : Catalog} (left : Extends first second)
    (right : Extends second third) : Extends first third :=
  fun name dataset found => right name dataset (left name dataset found)

/-! ## Adding a dataset -/

/-- A new dataset is found under its name, unless another one was there before. -/
theorem find?_add (catalog : Catalog) (descriptor : DatasetDescriptor) (name : String) :
    (catalog.add descriptor).find? name =
      (catalog.find? name).or
        (if lowercase name = lowercase descriptor.name then some (catalog.materialize descriptor)
          else none) := by
  -- the new entry is the last one, so entries from before win
  show (catalog.entries ++ [_]).lookup (lowercase name) = _
  rw [List.lookup_append, List.lookup_cons]
  by_cases same : lowercase name = lowercase descriptor.name
  · rw [if_pos same, ← same, beq_self_eq_true]
    rfl
  · rw [if_neg same, beq_eq_false_iff_ne.mpr same]
    rfl

theorem extends_add (catalog : Catalog) (descriptor : DatasetDescriptor) :
    Extends catalog (catalog.add descriptor) := by
  intro name dataset found
  rw [find?_add, found]
  rfl

theorem find?_add_self {catalog : Catalog} {descriptor : DatasetDescriptor}
    (missing : catalog.find? descriptor.name = none) :
    (catalog.add descriptor).find? descriptor.name = some (catalog.materialize descriptor) := by
  rw [find?_add, missing, if_pos rfl]
  rfl

/-! ## Operations -/

@[simp] theorem interface_find? (catalog : Catalog) (name : String) :
    interface.find? catalog name = catalog.find? name := rfl

@[simp] theorem answer_insert (descriptor : DatasetDescriptor) (catalog : Catalog) :
    (insert descriptor).answer catalog =
      (.ok (catalog.materialize descriptor), catalog.add descriptor) := rfl

theorem answer_create (descriptor : DatasetDescriptor) (catalog : Catalog) :
    (create descriptor).answer catalog =
      if descriptor.name.isEmpty then (.error (.creation .emptyName), catalog)
      else match catalog.find? descriptor.name with
        | some _ => (.error (.creation (.nameTaken descriptor.name)), catalog)
        | none => (.ok (catalog.materialize descriptor), catalog.add descriptor) := by
  unfold create
  by_cases empty : descriptor.name.isEmpty
  · rw [if_pos empty, if_pos empty]
    rfl
  · rw [if_neg empty, if_neg empty, Action.answer_bind, Action.answer_get]
    cases found : catalog.find? descriptor.name <;> simp [found]

theorem answer_findOrCreate (descriptor : DatasetDescriptor) (catalog : Catalog) :
    (findOrCreate descriptor).answer catalog =
      if descriptor.name.isEmpty then (.error (.creation .emptyName), catalog)
      else match catalog.find? descriptor.name with
        | some dataset => (.ok dataset, catalog)
        | none => (.ok (catalog.materialize descriptor), catalog.add descriptor) := by
  unfold findOrCreate
  by_cases empty : descriptor.name.isEmpty
  · rw [if_pos empty, if_pos empty]
    rfl
  · rw [if_neg empty, if_neg empty, Action.answer_bind, Action.answer_get]
    cases found : catalog.find? descriptor.name <;> simp [found]

/-- A video is found or created like any dataset; no failure is put into other words. -/
theorem answer_createVideo (name : String) (catalog : Catalog) :
    ((Binder.ofCatalog interface).createVideo name).answer catalog =
      (findOrCreate (.video name)).answer catalog := by
  show (match (findOrCreate (.video name)).answer catalog with
    | (result, after) => (result.mapError Binder.creationError, after)) = _
  rw [answer_findOrCreate]
  by_cases empty : (DatasetDescriptor.video name).name.isEmpty
  · rw [if_pos empty]
    rfl
  · rw [if_neg empty]
    cases catalog.find? (DatasetDescriptor.video name).name <;> rfl

/-! ## Steps -/

/-- What one operation can do: it fails or finds something and changes nothing, or it adds a dataset under a
new name. -/
inductive Step (catalog : Catalog) : Except Error α × Catalog → Prop
  | fails (error : Error) : Step catalog (.error error, catalog)
  | finds (x : α) : Step catalog (.ok x, catalog)
  | adds (x : α) {descriptor : DatasetDescriptor} :
      descriptor.name ≠ "" → catalog.find? descriptor.name = none →
      Step catalog (.ok x, catalog.add descriptor)

theorem step_create (descriptor : DatasetDescriptor) (catalog : Catalog) :
    Step catalog ((create descriptor).answer catalog) := by
  rw [answer_create]
  split
  · exact .fails _
  · rename_i named
    split
    · exact .fails _
    · rename_i missing
      exact .adds _ (fun empty => named (String.isEmpty_iff.mpr empty)) missing

theorem step_findOrCreate (descriptor : DatasetDescriptor) (catalog : Catalog) :
    Step catalog ((findOrCreate descriptor).answer catalog) := by
  rw [answer_findOrCreate]
  split
  · exact .fails _
  · rename_i named
    split
    · exact .finds _
    · rename_i missing
      exact .adds _ (fun empty => named (String.isEmpty_iff.mpr empty)) missing

theorem step_createVideo (name : String) (catalog : Catalog) :
    Step catalog (((Binder.ofCatalog interface).createVideo name).answer catalog) := by
  rw [answer_createVideo]
  exact step_findOrCreate (.video name) catalog

section

variable {catalog : Catalog} {outcome : Except Error α × Catalog}

/-- A step keeps every dataset. -/
theorem Step.extends_snd (step : Step catalog outcome) : Extends catalog outcome.2 := by
  cases step with
  | fails error => exact .refl catalog
  | finds x => exact .refl catalog
  | @adds x descriptor named missing => exact extends_add catalog descriptor

/-- A step that fails changes nothing. -/
theorem Step.unchanged (step : Step catalog outcome) {error : Error}
    (failed : outcome.1 = .error error) : outcome.2 = catalog := by
  cases step with
  | fails error => rfl
  | finds x => rfl
  | adds x named missing => cases failed

end

/-- It is a step no matter what is made of its value. -/
theorem Step.discard {catalog : Catalog} {action : Action Catalog α}
    (step : Step catalog (action.answer catalog)) :
    Step catalog ((Functor.discard action : Action Catalog Unit).answer catalog) := by
  rw [Action.answer_discard]
  generalize action.answer catalog = outcome at step
  cases step with
  | fails error => exact .fails error
  | finds x => exact .finds ()
  | adds x named missing => exact .adds () named missing

theorem extends_create (descriptor : DatasetDescriptor) (catalog : Catalog) :
    Extends catalog ((create descriptor).answer catalog).2 :=
  (step_create descriptor catalog).extends_snd

theorem extends_findOrCreate (descriptor : DatasetDescriptor) (catalog : Catalog) :
    Extends catalog ((findOrCreate descriptor).answer catalog).2 :=
  (step_findOrCreate descriptor catalog).extends_snd

/-- What was found or created is found from then on. -/
theorem find?_of_findOrCreate (descriptor : DatasetDescriptor) {catalog after : Catalog}
    {dataset : Dataset}
    (answered : (findOrCreate descriptor).answer catalog = (.ok dataset, after)) :
    after.find? descriptor.name = some dataset := by
  rw [answer_findOrCreate] at answered
  split at answered
  · cases answered
  · split at answered
    · rename_i found
      cases answered
      exact found
    · rename_i missing
      cases answered
      exact find?_add_self missing

end VideoPlan.Catalog
