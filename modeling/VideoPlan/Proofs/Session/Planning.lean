import VideoPlan.Session
import VideoPlan.Proofs.Catalog.Extension
import VideoPlan.Proofs.Conversion.Planning

/-!
# Planning against the catalog in memory

Planning a statement is the dialogue about it and a last step that looks at the host only. The dialogue
about a file is the only one that changes the catalog, by a video that was not there.
-/

namespace VideoPlan

open Converting (told)

namespace Session

/-! ## The last step -/

/-- What becomes of the plan of a statement: the loader is chosen and the processor is decided on. -/
def finish (host : Host) (statement : Statement) : Option Plan → Except Error PlannedStatement
  | none => .error (.noPlan statement.kind)
  | some plan => do
    let loader ← loaderFor host plan
    return { plan, loader, useGpu := host.gpuAvailable && plan.invokesFunction }

theorem answer_convert (catalog : CatalogInterface σ) (statement : Statement) (state : σ) :
    (convert catalog statement).answer state =
      told (.ofCatalog catalog) (.ofStatement statement) state :=
  Converting.outcome_visit (.ofCatalog catalog) state statement

/-- The last step neither sees nor changes the catalog. -/
theorem answer_planStatement (host : Host) (catalog : CatalogInterface σ) (statement : Statement)
    (state : σ) :
    (planStatement host catalog statement).answer state =
      ((told (.ofCatalog catalog) (.ofStatement statement) state).1 >>= finish host statement,
        (told (.ofCatalog catalog) (.ofStatement statement) state).2) := by
  unfold planStatement
  rw [Action.answer_bind, answer_convert]
  rcases told (.ofCatalog catalog) (.ofStatement statement) state with ⟨_ | _ | plan, after⟩
  · rfl
  · rfl
  · dsimp only
    rw [Action.answer_bind, Action.answer_ofExcept]
    show _ = (loaderFor host plan >>= _, after)
    cases loaderFor host plan <;> rfl

/-- A text is planned like its statement, if it is one, and else changes nothing. -/
theorem answer_planSql_snd (host : Host) (catalog : CatalogInterface σ) (sql : String) (state : σ) :
    ((planSql host catalog sql).answer state).2 =
      match Statement.ofText? sql with
      | .ok statement => ((planStatement host catalog statement).answer state).2
      | .error _ => state := by
  unfold planSql
  rw [Action.answer_bind, Action.answer_ofExcept]
  cases Statement.ofText? sql <;> rfl

end Session

namespace Catalog

/-! ## Files -/

/-- A file is planned for the dataset of its table, which is created if it is not there. -/
theorem told_ofLoadData (load : LoadStatement) (catalog : Catalog) :
    told (.ofCatalog interface) (.ofLoadData load) catalog =
      match catalog.find? load.table.table with
      | some dataset => (.ok (some (.leaf (.loadData dataset load.path))), catalog)
      | none =>
        match (findOrCreate (.video load.table.table)).answer catalog with
        | (.ok dataset, after) => (.ok (some (.leaf (.loadData dataset load.path))), after)
        | (.error error, after) => (.error error, after) := by
  unfold Dialogue.ofLoadData
  rw [Converting.told_lookUp, interface_find?]
  cases catalog.find? load.table.table with
  | some dataset => rfl
  | none =>
    rw [Converting.told_ask]
    dsimp only [Binder.reply]
    rw [answer_createVideo]
    rcases (findOrCreate (.video load.table.table)).answer catalog with ⟨_ | dataset, after⟩ <;> rfl

end Catalog

end VideoPlan
