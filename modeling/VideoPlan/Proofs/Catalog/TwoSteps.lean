import VideoPlan.Proofs.Catalog.WellFormed
import VideoPlan.Proofs.Conversion.Planning
import VideoPlan.Proofs.Conversion.Replacement
import VideoPlan.Proofs.Text.Casing

/-!
# Finding or creating a dataset in one step or in two

A catalog finds a dataset or creates it in one operation, which looks at the name of the descriptor before
it looks the dataset up. By default the two are done one after the other, and then the name is looked at
last. The order shows only under the empty name: the one operation always refuses it, the two refuse it
unless a dataset is found there. In a catalog that is reached none is.

Main statement: `reached_findOrCreate_eq`.
-/

namespace VideoPlan.Catalog

open Text

/-- No dataset lies under the empty name. -/
theorem WellFormed.find?_empty {catalog : Catalog} (wellFormed : catalog.WellFormed) :
    catalog.find? "" = none := by
  rw [wellFormed.find?_eq_none_iff]
  intro dataset member same
  have empty : lowercase dataset.name = "" := same.trans (lowercase_eq_empty.mpr rfl)
  exact wellFormed.name_ne dataset member (lowercase_eq_empty.mp empty)

/-- The two steps, by what the first one finds. -/
theorem answer_findThenCreate (descriptor : DatasetDescriptor) (catalog : Catalog) :
    (CatalogInterface.findThenCreate find? create descriptor).answer catalog =
      match catalog.find? descriptor.name with
      | some dataset => (.ok dataset, catalog)
      | none => (create descriptor).answer catalog := by
  unfold CatalogInterface.findThenCreate
  rw [Action.answer_bind, Action.answer_get]
  dsimp only
  cases catalog.find? descriptor.name <;> rfl

/-- In a well-formed catalog the one operation does what the two do. -/
theorem WellFormed.findOrCreate_eq {catalog : Catalog} (wellFormed : catalog.WellFormed)
    (descriptor : DatasetDescriptor) :
    (findOrCreate descriptor).answer catalog =
      (CatalogInterface.findThenCreate find? create descriptor).answer catalog := by
  rw [answer_findOrCreate, answer_findThenCreate, answer_create]
  by_cases empty : descriptor.name.isEmpty
  · -- nothing is found under the empty name, so both come to refuse it
    have missing : catalog.find? descriptor.name = none := by
      rw [String.isEmpty_iff.mp empty]
      exact wellFormed.find?_empty
    rw [if_pos empty, missing]
    exact (if_pos empty).symm
  · rw [if_neg empty]
    cases found : catalog.find? descriptor.name with
    | some dataset => rfl
    | none =>
      rw [if_neg empty]

theorem sameOn_findOrCreate (descriptor : DatasetDescriptor) :
    Action.SameOn WellFormed (findOrCreate descriptor)
      (CatalogInterface.findThenCreate find? create descriptor) :=
  fun catalog wellFormed =>
    ⟨wellFormed.findOrCreate_eq descriptor,
      (step_findOrCreate descriptor catalog).wellFormed wellFormed⟩

/-- What is bound is bound without looking at the catalog. -/
theorem sameOn_of_isBinding {question : Question} (binding : question.isBinding = true) :
    Action.SameOn WellFormed ((Binder.ofCatalog interface).reply question)
      ((Binder.ofCatalog twoStepInterface).reply question) := by
  intro catalog wellFormed
  obtain ⟨result, answered⟩ := Binder.answer_reply_of_isBinding interface binding
  constructor
  · cases question with
    | dataset table => cases binding
    | createVideo name => cases binding
    | _ => rfl
  · rw [answered]
    exact wellFormed

/-- Over well-formed catalogs it does not matter to a binder which of the two ways its catalog takes. -/
theorem sameOn_ofCatalog :
    (Binder.ofCatalog interface).SameOn WellFormed (Binder.ofCatalog twoStepInterface) := by
  intro question
  cases question with
  | createVideo name =>
    intro catalog wellFormed
    obtain ⟨same, after⟩ := sameOn_findOrCreate (.video name) catalog wellFormed
    refine ⟨?_, after⟩
    show (((findOrCreate (.video name)).answer catalog).1.mapError Binder.creationError,
      ((findOrCreate (.video name)).answer catalog).2) = _
    rw [same]
    rfl
  | dataset table => exact fun catalog wellFormed => ⟨rfl, wellFormed⟩
  | _ => exact sameOn_of_isBinding rfl

/-! ## Main statement -/

/-- In every catalog that is reached, finding or creating a dataset comes to the same in one operation and
in two steps, whatever the descriptor: the same dataset or the same error, and the same catalog with its
counts. So a conversion over the catalog, in whatever state it is, cannot tell them apart: any visits, one
after the other, have the same answers and leave the same plans, scopes and catalogs. -/
theorem reached_findOrCreate_eq {catalog : Catalog} (reached : catalog.Reached) :
    (∀ descriptor : DatasetDescriptor,
      (findOrCreate descriptor).answer catalog =
        (CatalogInterface.findThenCreate find? create descriptor).answer catalog) ∧
    ∀ (visits : List Visit) (conversion : Conversion),
      Visit.outcomes (.ofCatalog interface) visits { conversion, state := catalog } =
        Visit.outcomes (.ofCatalog twoStepInterface) visits { conversion, state := catalog } := by
  have wellFormed := reached.wellFormed
  constructor
  · intro descriptor
    exact wellFormed.findOrCreate_eq descriptor
  · intro visits conversion
    exact Visit.outcomes_eq sameOn_ofCatalog visits wellFormed

/-- A catalog has a table, which is asked for in capitals, as is the empty name. Then a file is loaded into
a table without a name, which fails, and another one into a new table, which is queried. -/
theorem reached_findOrCreate_eq_capitals :
    let columns : List Column := [{ name := "id", type := { base := .integer } }]
    let catalog := ((Call.register "Labels" columns).outcome .empty).2
    let twoSteps := CatalogInterface.findThenCreate find? create
    let visits : List Visit :=
      [.loadData { table := { table := "" }, path := "a.mp4" },
       .loadData { table := { table := "Clips" }, path := "a.mp4" },
       .select { table := some { table := "CLIPS" }, items := [.wildcard ""] }]
    let run := Visit.outcomes (.ofCatalog twoStepInterface) visits { state := catalog }
    catalog.Reached ∧
    (twoSteps (.named "" [])).answer catalog = (.error (.creation .emptyName), catalog) ∧
    (findOrCreate (.video "LABELS")).answer catalog = (twoSteps (.video "LABELS")).answer catalog ∧
    ((twoSteps (.video "LABELS")).answer catalog).1.toOption.map (·.name) = some "Labels" ∧
    Visit.outcomes (.ofCatalog interface) visits { state := catalog } = run ∧
    run.map (fun outcome => (outcome.1.isOk, outcome.2.state.size)) =
      [(false, 1), (true, 2), (true, 2)] := by
  intro columns catalog twoSteps visits run
  have reached : catalog.Reached := Reached.empty.call _
  obtain ⟨same, sameRuns⟩ := reached_findOrCreate_eq reached
  have refused : (findOrCreate (.named "" [])).answer catalog =
      (.error (.creation .emptyName), catalog) := by
    rw [answer_findOrCreate]
    rfl
  exact ⟨reached, (same _).symm.trans refused, same _, by decide +kernel, sameRuns visits .start,
    by decide +kernel⟩

end VideoPlan.Catalog
