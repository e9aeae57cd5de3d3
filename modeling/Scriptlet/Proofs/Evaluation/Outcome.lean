import Scriptlet.Evaluation.Evaluate

/-!
# Laws of outcomes

Outcomes form a lawful monad, and the faults of a composite outcome are those of its steps.
-/

namespace Scriptlet

namespace Outcome

variable {α β : Type} {allowed : Fault → Prop}

theorem bind_eq_of_ok
    {first : Outcome α} {next : α → Outcome β} {result : α}
    (succeeded : first.result = .ok result) :
    first >>= next = ⟨first.output ++ (next result).output, (next result).result⟩ := by
  change andThen first next = _
  simp only [andThen, succeeded]

theorem bind_eq_of_error
    {first : Outcome α} {next : α → Outcome β} {fault : Fault}
    (failed : first.result = .error fault) :
    first >>= next = ⟨first.output, .error fault⟩ := by
  change andThen first next = _
  simp only [andThen, failed]

theorem bind_value (outcome : Outcome α) : (outcome >>= value) = outcome := by
  obtain ⟨output, result⟩ := outcome
  cases result with
  | ok result =>
      rw [bind_eq_of_ok rfl]
      simp [value]
  | error fault => rw [bind_eq_of_error rfl]

theorem andThen_assoc
    {γ : Type} (outcome : Outcome α) (next : α → Outcome β) (last : β → Outcome γ) :
    (outcome >>= next) >>= last = outcome >>= fun result => next result >>= last := by
  cases first : outcome.result with
  | error fault =>
      rw [bind_eq_of_error first, bind_eq_of_error first]
      exact bind_eq_of_error rfl
  | ok result =>
      rw [bind_eq_of_ok first, bind_eq_of_ok first]
      cases second : (next result).result with
      | error fault =>
          rw [bind_eq_of_error second]
          exact bind_eq_of_error rfl
      | ok middle =>
          rw [bind_eq_of_ok second, ← List.append_assoc]
          exact bind_eq_of_ok rfl

instance : LawfulMonad Outcome :=
  LawfulMonad.mk' Outcome (fun outcome => bind_value outcome) (fun _ _ => bind_eq_of_ok rfl)
    andThen_assoc

/-! ## Effects -/

/-- What an outcome wrote and how it failed, without its value. -/
def effect (outcome : Outcome α) : Outcome Unit :=
  outcome >>= fun _ => pure ()

theorem effect_eq_of_ok
    {outcome : Outcome α} {result : α}
    (succeeded : outcome.result = .ok result) :
    outcome.effect = ⟨outcome.output, .ok ()⟩ := by
  rw [effect, bind_eq_of_ok succeeded]
  simp [pure, value]

theorem effect_eq_of_error
    {outcome : Outcome α} {fault : Fault}
    (failed : outcome.result = .error fault) :
    outcome.effect = ⟨outcome.output, .error fault⟩ :=
  bind_eq_of_error failed

theorem effect_output (outcome : Outcome α) : outcome.effect.output = outcome.output := by
  cases ended : outcome.result with
  | ok result => rw [effect_eq_of_ok ended]
  | error fault => rw [effect_eq_of_error ended]

theorem effect_result_eq_error_iff {outcome : Outcome α} {fault : Fault} :
    outcome.effect.result = .error fault ↔ outcome.result = .error fault := by
  cases ended : outcome.result with
  | ok result => simp [effect_eq_of_ok ended]
  | error fault => simp [effect_eq_of_error ended]

/-! ## Faults -/

/-- If an outcome is a fault, it is an allowed one. -/
def Within (allowed : Fault → Prop) (outcome : Outcome α) : Prop :=
  ∀ fault, outcome.result = .error fault → allowed fault

theorem within_pure (result : α) : (pure result : Outcome α).Within allowed := by
  intro fault failed
  cases failed

theorem within_emit (text : String) : (emit text).Within allowed := by
  intro fault failed
  cases failed

theorem within_fail
    {fault : Fault}
    (isAllowed : allowed fault) :
    (fail fault : Outcome α).Within allowed := by
  intro found failed
  cases failed
  exact isAllowed

theorem Within.bind
    {first : Outcome α} {next : α → Outcome β}
    (firstWithin : first.Within allowed)
    (nextWithin : ∀ result, first.result = .ok result → (next result).Within allowed) :
    (first >>= next).Within allowed := by
  intro fault failed
  cases ended : first.result with
  | ok result =>
      rw [bind_eq_of_ok ended] at failed
      exact nextWithin result ended fault failed
  | error earlier =>
      rw [bind_eq_of_error ended] at failed
      cases failed
      exact firstWithin fault ended

end Outcome

end Scriptlet
