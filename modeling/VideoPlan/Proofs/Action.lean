import VideoPlan.Error

/-!
# What actions answer

An action answers a value or an error and leaves a state. The equations below say so for each way of
building an action, so that a proof about a composed action reads off its parts.

* `Action.answer_bind`: a sequence answers what its second action answers, unless the first one fails;
* `bind_eq_ok`, `bind_eq_error`, `map_eq_ok`, `map_eq_error`: when a sequence or a mapped answer succeeds or
  fails;
* `Keeps`, `SameOn`: properties of states that an action keeps, and on which two actions agree.
-/

namespace VideoPlan

variable {σ α β : Type}

/-! ## Answers -/

/-- A sequence of answers succeeds exactly if both parts do. -/
theorem bind_eq_ok {first : Except Error α} {next : α → Except Error β} {y : β} :
    (first >>= next) = .ok y ↔ ∃ x, first = .ok x ∧ next x = .ok y := by
  constructor
  · intro h
    cases first with
    | error error => cases h
    | ok x => exact ⟨x, rfl, h⟩
  · rintro ⟨x, rfl, h⟩
    exact h

/-- A sequence of answers fails as its first part does, or as the second one behind a success. -/
theorem bind_eq_error {first : Except Error α} {next : α → Except Error β} {error : Error} :
    (first >>= next) = .error error ↔
      first = .error error ∨ ∃ x, first = .ok x ∧ next x = .error error := by
  cases first with
  | error other =>
    constructor
    · intro failed
      cases failed
      exact .inl rfl
    · rintro (failed | ⟨x, answered, -⟩)
      · cases failed
        rfl
      · cases answered
  | ok x =>
    constructor
    · exact fun failed => .inr ⟨x, rfl, failed⟩
    · rintro (failed | ⟨y, answered, failed⟩)
      · cases failed
      · cases answered
        exact failed

theorem pure_eq_ok {x y : α} : (pure x : Except Error α) = .ok y ↔ x = y :=
  ⟨fun h => by cases h; rfl, fun h => h ▸ rfl⟩

/-- A mapped answer succeeds exactly if the answer does. -/
theorem map_eq_ok {answer : Except Error α} {f : α → β} {y : β} :
    (f <$> answer) = .ok y ↔ ∃ x, answer = .ok x ∧ f x = y := by
  constructor
  · intro h
    cases answer with
    | error error => cases h
    | ok x => cases h; exact ⟨x, rfl, rfl⟩
  · rintro ⟨x, rfl, rfl⟩
    rfl

/-- A mapped answer fails exactly as the answer does. -/
theorem map_eq_error {answer : Except Error α} {f : α → β} {error : Error} :
    (f <$> answer) = .error error ↔ answer = .error error := by
  cases answer with
  | error other => exact ⟨fun h => by cases h; rfl, fun h => by cases h; rfl⟩
  | ok x => exact ⟨nofun, nofun⟩

namespace Action

/-! ## Actions -/

@[simp] theorem answer_pure (x : α) (state : σ) :
    answer (pure x : Action σ α) state = (.ok x, state) := rfl

@[simp] theorem answer_throw (error : Error) (state : σ) :
    answer (throw error : Action σ α) state = (.error error, state) := rfl

@[simp] theorem answer_get (state : σ) :
    answer (get : Action σ σ) state = (.ok state, state) := rfl

@[simp] theorem answer_ofExcept (result : Except Error α) (state : σ) :
    answer (ofExcept result) state = (result, state) := by
  cases result <;> rfl

/-- A sequence stops where its first action fails, and else goes on from the state that this one
leaves. -/
theorem answer_bind (first : Action σ α) (next : α → Action σ β) (state : σ) :
    answer (first >>= next) state =
      match first.answer state with
      | (.ok x, after) => (next x).answer after
      | (.error error, after) => (.error error, after) := by
  show (match first.answer state with
    | (result, after) => (ExceptT.bindCont next result) after) = _
  rcases first.answer state with ⟨_ | _, after⟩ <;> rfl

/-- Without its value an answer says whether the action succeeds. -/
theorem answer_discard (action : Action σ α) (state : σ) :
    answer (discard action : Action σ Unit) state =
      ((action.answer state).1.map fun _ => (), (action.answer state).2) := by
  have sequence : (discard action : Action σ Unit) = action >>= fun _ => pure () := by
    unfold Functor.discard
    rw [map_const]
    exact map_eq_pure_bind _ action
  rw [sequence, answer_bind]
  rcases action.answer state with ⟨_ | _, after⟩ <;> rfl

/-! ## Properties that actions keep -/

/-- The action leads from states with the property to states with the property, also where it fails. -/
def Keeps (property : σ → Prop) (action : Action σ α) : Prop :=
  ∀ state, property state → property (action.answer state).2

theorem Keeps.pure (property : σ → Prop) (x : α) :
    Keeps property (Pure.pure x : Action σ α) :=
  fun _ holds => holds

theorem Keeps.bind {property : σ → Prop} {first : Action σ α} {next : α → Action σ β}
    (keepsFirst : Keeps property first) (keepsNext : ∀ x, Keeps property (next x)) :
    Keeps property (first >>= next) := by
  intro state holds
  have between := keepsFirst state holds
  rw [answer_bind]
  rcases answered : first.answer state with ⟨_ | x, after⟩ <;> rw [answered] at between
  · exact between
  · exact keepsNext x after between

/-! ## Actions that agree -/

/-- From states with the property both actions come to the same, and to states with the property. -/
def SameOn (property : σ → Prop) (action action' : Action σ α) : Prop :=
  ∀ state, property state →
    action.answer state = action'.answer state ∧ property (action.answer state).2

theorem Keeps.sameOn {property : σ → Prop} {action : Action σ α} (keeps : Keeps property action) :
    SameOn property action action :=
  fun state holds => ⟨rfl, keeps state holds⟩

theorem SameOn.bind {property : σ → Prop} {first first' : Action σ α} {next next' : α → Action σ β}
    (sameFirst : SameOn property first first') (sameNext : ∀ x, SameOn property (next x) (next' x)) :
    SameOn property (first >>= next) (first' >>= next') := by
  intro state holds
  obtain ⟨same, between⟩ := sameFirst state holds
  rw [answer_bind, answer_bind, ← same]
  rcases answered : first.answer state with ⟨_ | x, after⟩ <;> rw [answered] at between
  · exact ⟨rfl, between⟩
  · exact sameNext x after between

end Action

end VideoPlan
