namespace CredentialBroker.Outcome

/-!
# Outcomes that are good

When a sequence of outcomes, or an outcome whose error is seen as another one, is a value, and when
it is an error.
-/

variable {ε ε' α β : Type} {x : Except ε α} {a : α} {b : β}

@[simp] theorem ok_bind {f : α → Except ε β} : (Except.ok a >>= f) = f a := rfl

@[simp] theorem error_bind {f : α → Except ε β} {e : ε} : (Except.error e >>= f) = .error e := rfl

@[simp] theorem ok_mapError {f : ε → ε'} : (Except.ok a : Except ε α).mapError f = .ok a := rfl

@[simp] theorem error_mapError {f : ε → ε'} {e : ε} :
    (Except.error e : Except ε α).mapError f = .error (f e) := rfl

/-- A sequence is good when both of its parts are. -/
theorem bind_eq_ok {f : α → Except ε β} : (x >>= f) = .ok b ↔ ∃ a, x = .ok a ∧ f a = .ok b := by
  cases x with
  | error e =>
    constructor
    · intro h
      cases h
    · rintro ⟨a, ha, _⟩
      cases ha
  | ok a =>
    constructor
    · exact fun h => ⟨a, rfl, h⟩
    · rintro ⟨a', ha, h⟩
      cases ha
      exact h

/-- A sequence fails with its first part, or with its second one after a first that is good. -/
theorem bind_eq_error {f : α → Except ε β} {e : ε} :
    (x >>= f) = .error e ↔ x = .error e ∨ ∃ a, x = .ok a ∧ f a = .error e := by
  cases x with
  | error e' => simp
  | ok a => simp

theorem mapError_eq_ok {f : ε → ε'} : x.mapError f = .ok a ↔ x = .ok a := by
  cases x with
  | error e => simp
  | ok v => simp

theorem mapError_eq_error {f : ε → ε'} {e : ε'} :
    x.mapError f = .error e ↔ ∃ e', x = .error e' ∧ f e' = e := by
  cases x with
  | error e' => simp
  | ok v => simp

/-- A check that throws is passed exactly when its condition fails. -/
theorem check_eq_ok {p : Prop} [Decidable p] {e : ε} :
    (if p then .error e else x) = .ok a ↔ ¬ p ∧ x = .ok a := by
  by_cases h : p <;> simp [h]

end CredentialBroker.Outcome
