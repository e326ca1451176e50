import CredentialBroker.Time.Calendar
import CredentialBroker.Time.Span

namespace CredentialBroker

/-!
# Moments

A moment is a number of seconds since 1970-01-01T00:00:00Z with a fraction in nanoseconds.  Its
texts are those of RFC 3339: years from 0 to 9999 in four digits, others with a sign.
-/

/-- A moment of coordinated universal time. -/
structure Timestamp where
  /-- Whole seconds since 1970-01-01T00:00:00Z. -/
  seconds : Int
  /-- The fraction in nanoseconds. -/
  nanos : Nat
deriving DecidableEq

namespace Timestamp

/-- The moment of a whole number of seconds. -/
def ofSeconds (n : Int) : Timestamp := ⟨n, 0⟩

/-- The first second of the calendar, in the year -262143. -/
def firstSecond : Int := Calendar.dayOfDate ⟨-262143, 1, 1⟩ * 86400

/-- The second after the last one of the calendar, in the year 262143. -/
def endSecond : Int := Calendar.dayOfDate ⟨262143, 1, 1⟩ * 86400

/-- The moment of a whole number of seconds that the calendar reaches. -/
def ofSeconds? (n : Int) : Option Timestamp :=
  if firstSecond ≤ n ∧ n < endSecond then some (ofSeconds n) else none

/-- The moment a span later. -/
def after (t : Timestamp) (s : Span) : Timestamp :=
  let nanos := t.nanos + s.nanos
  ⟨t.seconds + (nanos / nanosPerSecond : Nat), nanos % nanosPerSecond⟩

/-- A number in at least `width` digits. -/
def padded (width n : Nat) : String :=
  let digits := Nat.toDigits 10 n
  String.ofList (List.replicate (width - digits.length) '0' ++ digits)

/-- A year: four digits, or a sign and at least four. -/
def yearText (y : Int) : String :=
  if 0 ≤ y ∧ y ≤ 9999 then padded 4 y.toNat
  else if y < 0 then "-" ++ padded 4 (-y).toNat
  else "+" ++ padded 4 y.toNat

/-- Date and time to the second, without a zone. -/
def naiveText (t : Timestamp) : String :=
  let date := Calendar.dateOfDay (t.seconds / 86400)
  let second := (t.seconds % 86400).toNat
  yearText date.year ++ "-" ++ padded 2 date.month ++ "-" ++ padded 2 date.day ++ "T" ++
    padded 2 (second / 3600) ++ ":" ++ padded 2 (second / 60 % 60) ++ ":" ++ padded 2 (second % 60)

/-- Date and time to the second, in universal time. -/
def secondText (t : Timestamp) : String := t.naiveText ++ "Z"

/-- Date and time in universal time, the fraction in 0, 3, 6 or 9 digits as it needs. -/
def text (t : Timestamp) : String :=
  let fraction :=
    if t.nanos = 0 then ""
    else if t.nanos % 1000000 = 0 then "." ++ padded 3 (t.nanos / 1000000)
    else if t.nanos % 1000 = 0 then "." ++ padded 6 (t.nanos / 1000)
    else "." ++ padded 9 t.nanos
  t.naiveText ++ fraction ++ "Z"

/-! ### Reading -/

/-- The number at the start, of at least one and at most `most` digits, and the rest. -/
def number? (most : Nat) (cs : List Char) : Option (Nat × List Char) :=
  let digits := (cs.take most).takeWhile Char.isDigit
  if digits.isEmpty then none
  else some (Nat.ofDigitChars 10 digits 0, cs.drop digits.length)

/-- The rest after the given character. -/
def expect? (c : Char) : List Char → Option (List Char)
  | [] => none
  | x :: xs => if x = c then some xs else none

/-- The fraction of a second in nanoseconds, if there is one, and the rest. -/
def fraction? : List Char → Option (Nat × List Char)
  | '.' :: cs =>
    let digits := cs.takeWhile Char.isDigit
    if digits.isEmpty then none
    else
      let kept := (digits ++ List.replicate 9 '0').take 9
      some (Nat.ofDigitChars 10 kept 0, cs.drop digits.length)
  | cs => some (0, cs)

/-- The offset from universal time in seconds, to the end of the text. -/
def offset? : List Char → Option Int
  | ['Z'] | ['z'] => some 0
  | sign :: cs => do
    let (hours, cs) ← number? 2 cs
    let cs ← expect? ':' cs
    let (minutes, cs) ← number? 2 cs
    if cs ≠ [] ∨ minutes ≥ 60 then none
    else
      let seconds : Int := hours * 3600 + minutes * 60
      if sign = '+' then some seconds else if sign = '-' then some (-seconds) else none
  | [] => none

/-- The moment a text of RFC 3339 names. -/
def ofText? (s : String) : Option Timestamp := do
  let (year, cs) ← number? 4 s.toList
  let (month, cs) ← expect? '-' cs >>= number? 2
  let (day, cs) ← expect? '-' cs >>= number? 2
  let cs ← (expect? 'T' cs).or ((expect? 't' cs).or (expect? ' ' cs))
  let (hour, cs) ← number? 2 cs
  let (minute, cs) ← expect? ':' cs >>= number? 2
  let (second, cs) ← expect? ':' cs >>= number? 2
  let (nanos, cs) ← fraction? cs
  let offset ← offset? cs
  let date : Calendar.Date := ⟨year, month, day⟩
  if date.isValid ∧ hour < 24 ∧ minute < 60 ∧ second < 60 then
    some ⟨Calendar.dayOfDate date * 86400 + hour * 3600 + minute * 60 + second - offset, nanos⟩
  else none

end Timestamp

end CredentialBroker
