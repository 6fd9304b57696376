import VideoPlan.Console.Loop

/-!
# Runs of the planning loop

Where the loop waits for the next line after all that came in so far, if it has not stopped. What holds of the first
state and is kept by every step holds whenever it waits (`after_induction`).
-/

namespace VideoPlan.Console

/-- The state in which the loop waits after all that came in; nothing if it has stopped. -/
def after (host : Host) (state : State) : List Input → Option State
  | [] => some state
  | input :: inputs =>
    match step host state input with
    | .goOn _ state => after host state inputs
    | .stop => none

variable {host : Host} {state next : State} {input : Input} {outputs : List Output}

theorem run_goOn (goesOn : step host state input = .goOn outputs next) (inputs : List Input) :
    run host state (input :: inputs) = outputs ++ run host next inputs := by
  rw [run, goesOn]

theorem run_stop (stops : step host state input = .stop) (inputs : List Input) :
    run host state (input :: inputs) = [] := by
  rw [run, stops]

theorem after_goOn (goesOn : step host state input = .goOn outputs next) (inputs : List Input) :
    after host state (input :: inputs) = after host next inputs := by
  rw [after, goesOn]

theorem after_stop (stops : step host state input = .stop) (inputs : List Input) :
    after host state (input :: inputs) = none := by
  rw [after, stops]

/-- A run goes on from where it waits. -/
theorem run_append (host : Host) (state : State) (inputs later : List Input) :
    run host state (inputs ++ later) =
      run host state inputs ++ ((after host state inputs).map (run host · later)).getD [] := by
  induction inputs generalizing state with
  | nil => rfl
  | cons input inputs ih =>
    rw [List.cons_append]
    cases taken : step host state input with
    | goOn outputs next => rw [run_goOn taken, run_goOn taken, after_goOn taken, ih, List.append_assoc]
    | stop =>
      rw [run_stop taken, run_stop taken, after_stop taken]
      rfl

/-- Invariants of the loop, by induction on what comes in. -/
theorem after_induction {invariant : State → Prop}
    (kept : ∀ {state input outputs next}, invariant state → step host state input = .goOn outputs next →
      invariant next)
    (holds : invariant state) {inputs : List Input} (waits : after host state inputs = some next) :
    invariant next := by
  induction inputs generalizing state with
  | nil =>
    obtain rfl := Option.some.inj waits
    exact holds
  | cons input inputs ih =>
    cases taken : step host state input with
    | goOn outputs reached =>
      rw [after_goOn taken] at waits
      exact ih (kept holds taken) waits
    | stop =>
      rw [after_stop taken] at waits
      cases waits

end VideoPlan.Console
