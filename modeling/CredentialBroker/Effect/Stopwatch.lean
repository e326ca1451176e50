import CredentialBroker.Effect.Retry

namespace CredentialBroker

/-!
# Pauses on a stopwatch

A `Stopwatch` adds up the pauses made and cuts short the first one that does not end in time.
Trying again on a stopwatch shows how long the pauses of a policy take.  No pause lasts longer than
`longestPause`, and one that is to be cut short later than that is cut short then.  A pause that
ends at the very time at which it is to be cut short could go either way; here it ends.
-/

/-- A stopwatch in milliseconds. -/
structure Stopwatch where
  /-- The time passed. -/
  elapsed : Nat := 0
  /-- When pauses are cut short, if ever. -/
  cancelAt : Option Nat := none
deriving DecidableEq

namespace Stopwatch

/-- Thirty years of 365 days, in milliseconds. -/
def longestPause : Nat := 30 * 365 * 86400 * 1000

/-- A stopwatch at the start, with the time after which pauses are cut short. -/
def start (cancelAt : Option Nat) : Stopwatch := ⟨0, cancelAt.map (min longestPause)⟩

/-- A pause; whether it was cut short.  It is not when it ends at that very time. -/
def pause (length : Span) (w : Stopwatch) : Bool × Stopwatch :=
  let finish := w.elapsed + min longestPause length.millis
  match w.cancelAt with
  | some c =>
    if c < finish then (true, { w with elapsed := max c w.elapsed })
    else (false, { w with elapsed := finish })
  | none => (false, { w with elapsed := finish })

/-- The attempts at an operation with given outcomes, written down in order. -/
structure Trial where
  /-- The stopwatch. -/
  watch : Stopwatch
  /-- The numbers of the attempts made. -/
  attempts : List Nat := []
deriving DecidableEq

/-- Tries an operation whose attempts have the given outcomes. -/
def trial {ε α : Type} (p : RetryPolicy) (again : ε → Bool) (outcome : Nat → Except ε α)
    (w : Stopwatch) : Except (RetryError ε) α × Trial :=
  StateT.run (m := Id)
    (p.run (fun length t => let (cut, w) := t.watch.pause length; (cut, { t with watch := w }))
      again fun n t => (outcome n, { t with attempts := t.attempts ++ [n] }))
    { watch := w }

end Stopwatch

end CredentialBroker
