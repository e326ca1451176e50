import CredentialBroker.Time.Span

namespace CredentialBroker

/-!
# Trying again

An operation that fails is tried again after a pause that doubles with each failure up to a
limit, until it succeeds, fails with an error not worth another try, has used up its attempts, or
a pause is cut short.
-/

/-- How often to try and how long to pause. -/
structure RetryPolicy where
  /-- The number of attempts. -/
  maxAttempts : Nat
  /-- There is at least one attempt. -/
  attempts_pos : 0 < maxAttempts := by decide
  /-- The pause after the first failure. -/
  initial : Span
  /-- The longest pause. -/
  longest : Span
deriving DecidableEq

/-- How trying ended without success. -/
inductive RetryError (ε : Type) where
  /-- With the last error seen. -/
  | failed (error : ε)
  /-- In a pause after the given number of attempts. -/
  | cancelled (attempts : Nat)
deriving DecidableEq

/-- The end of trying as an error of the operation. -/
def RetryError.collapse {ε : Type} (onCancel : Nat → ε) : RetryError ε → ε
  | .failed e => e
  | .cancelled n => onCancel n

namespace RetryPolicy

/-- The policy with the given number of attempts, at least one. -/
def of (attempts : Nat) (initial longest : Span) : RetryPolicy :=
  ⟨max attempts 1, by omega, initial, longest⟩

/-- Three attempts with pauses of 50 milliseconds and more, half a second at most. -/
def usual : RetryPolicy := of 3 (.ofMillis 50) (.ofMillis 500)

/-- The factor of the pause after a failure: the power of two, as far as 32 bits hold it. -/
def factor (attempt : Nat) : Nat := if attempt < 32 then Word.values attempt else Word.values 32 - 1

/-- The pause after the failure of an attempt, counted from 0. -/
def pauseAfter (p : RetryPolicy) (attempt : Nat) : Span :=
  ((p.initial.times? (factor attempt)).getD p.longest).min p.longest

variable {m : Type → Type} [Monad m] {ε α : Type}

/-- Tries with `left` attempts to spare after this one, which has the number `attempt`. -/
def tryFrom (p : RetryPolicy) (pause : Span → m Bool) (again : ε → Bool)
    (op : Nat → m (Except ε α)) : (left attempt : Nat) → m (Except (RetryError ε) α)
  | 0, attempt => do
    match ← op attempt with
    | .ok a => pure (.ok a)
    | .error e => pure (.error (.failed e))
  | left + 1, attempt => do
    match ← op attempt with
    | .ok a => pure (.ok a)
    | .error e =>
      if again e then
        if ← pause (p.pauseAfter attempt) then pure (.error (.cancelled (attempt + 1)))
        else p.tryFrom pause again op left (attempt + 1)
      else pure (.error (.failed e))

/-- Tries an operation, which gets the number of the attempt, counted from 0.  A pause says
whether it was cut short, and `again` which errors are worth another try. -/
def run (p : RetryPolicy) (pause : Span → m Bool) (again : ε → Bool)
    (op : Nat → m (Except ε α)) : m (Except (RetryError ε) α) :=
  p.tryFrom pause again op (p.maxAttempts - 1) 0

end RetryPolicy

end CredentialBroker
