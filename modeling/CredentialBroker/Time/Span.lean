import CredentialBroker.Word

namespace CredentialBroker

/-!
# Lengths of time

A span is a number of nanoseconds below the greatest one that 64 bits of seconds can hold.  Its
text is the shortest exact one in the largest unit that does not exceed it.
-/

/-- The nanoseconds of a second. -/
def nanosPerSecond : Nat := 1000000000

/-- A length of time. -/
structure Span where
  /-- Its length in nanoseconds. -/
  nanos : Nat
  /-- The seconds fit in 64 bits. -/
  nanos_lt : nanos < Word.values 64 * nanosPerSecond := by decide
deriving DecidableEq

namespace Span

/-- The given number of seconds. -/
def ofSeconds (n : UInt64) : Span :=
  ⟨n.toNat * nanosPerSecond, by
    have := n.toNat_lt
    simp only [nanosPerSecond, Word.values_64]; omega⟩

/-- The given number of milliseconds. -/
def ofMillis (n : UInt64) : Span :=
  ⟨n.toNat * 1000000, by
    have := n.toNat_lt
    simp only [nanosPerSecond, Word.values_64]; omega⟩

/-- The whole milliseconds of a span. -/
def millis (s : Span) : Nat := s.nanos / 1000000

/-- The whole seconds of a span. -/
def seconds (s : Span) : Nat := s.nanos / nanosPerSecond

/-- The product with a number, when it is still a span. -/
def times? (s : Span) (n : Nat) : Option Span :=
  if h : s.nanos * n < Word.values 64 * nanosPerSecond then some ⟨s.nanos * n, h⟩ else none

/-- The shorter of two spans. -/
def min (s t : Span) : Span := if s.nanos ≤ t.nanos then s else t

/-- A number with a fraction of the given number of places, zeros at the end left out. -/
def fractionText (whole part places : Nat) : String :=
  let digits := Nat.toDigits 10 part
  let all := List.replicate (places - digits.length) '0' ++ digits
  let kept := (all.reverse.dropWhile (· = '0')).reverse
  if part = 0 then toString whole
  else toString whole ++ "." ++ String.ofList kept

/-- The text of a span: seconds, milliseconds, microseconds or nanoseconds. -/
def text (s : Span) : String :=
  if nanosPerSecond ≤ s.nanos then
    fractionText (s.nanos / nanosPerSecond) (s.nanos % nanosPerSecond) 9 ++ "s"
  else if 1000000 ≤ s.nanos then fractionText (s.nanos / 1000000) (s.nanos % 1000000) 6 ++ "ms"
  else if 1000 ≤ s.nanos then fractionText (s.nanos / 1000) (s.nanos % 1000) 3 ++ "µs"
  else toString s.nanos ++ "ns"

@[simp] theorem nanos_min (s t : Span) : (s.min t).nanos = Nat.min s.nanos t.nanos := by
  simp only [min, Nat.min_def]; split <;> rfl

end Span

end CredentialBroker
