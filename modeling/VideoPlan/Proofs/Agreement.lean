import Mathlib.Data.List.Forall2
import VideoPlan.Proofs.Action

/-!
# Answers that agree

Two computations that do the same up to names are followed step by step: their answers agree if both
succeed, with values that are related, or if both fail in the same way. Steps that agree make sequences
that agree.
-/

namespace VideoPlan

variable {α β γ δ : Type}

/-- Both answers are values, which are related, or both are errors of one kind. -/
inductive Agree (related : α → β → Prop) : Except Error α → Except Error β → Prop
  | ok {x : α} {y : β} : related x y → Agree related (.ok x) (.ok y)
  | error {error error' : Error} :
    error.kind = error'.kind → Agree related (.error error) (.error error')

namespace Agree

theorem refl (answer : Except Error α) : Agree Eq answer answer := by
  cases answer with
  | ok x => exact .ok rfl
  | error error => exact .error rfl

theorem bind {related : α → β → Prop} {related' : γ → δ → Prop} {first : Except Error α}
    {first' : Except Error β} {next : α → Except Error γ} {next' : β → Except Error δ}
    (agree : Agree related first first')
    (agreeNext : ∀ x y, related x y → Agree related' (next x) (next' y)) :
    Agree related' (first >>= next) (first' >>= next') := by
  cases agree with
  | ok same => exact agreeNext _ _ same
  | error same => exact .error same

/-- After steps with equal values it is enough that what follows agrees for each value. -/
theorem bindEq {related : γ → δ → Prop} {first first' : Except Error α} {next : α → Except Error γ}
    {next' : α → Except Error δ} (agree : Agree Eq first first')
    (agreeNext : ∀ x, Agree related (next x) (next' x)) :
    Agree related (first >>= next) (first' >>= next') := by
  refine agree.bind fun x y same => ?_
  rw [same]
  exact agreeNext y

theorem mapEq {first first' : Except Error α} (f : α → γ) (agree : Agree Eq first first') :
    Agree Eq (f <$> first) (f <$> first') := by
  cases agree with
  | ok same => rw [same]; exact refl _
  | error same => exact .error same

/-- Each element of a list is taken on in turn, up to the first failure. -/
theorem mapM {related : α → β → Prop} {f : α → Except Error γ} {f' : β → Except Error γ} {xs : List α}
    {ys : List β} (elements : List.Forall₂ related xs ys)
    (agree : ∀ x y, related x y → Agree Eq (f x) (f' y)) : Agree Eq (xs.mapM f) (ys.mapM f') := by
  induction elements with
  | nil => exact refl _
  | cons same _ ih =>
    rw [List.mapM_cons, List.mapM_cons]
    exact (agree _ _ same).bindEq fun x => ih.bindEq fun xs => refl _

end Agree

end VideoPlan
