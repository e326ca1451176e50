namespace CredentialBroker.Calendar

/-!
# The Gregorian calendar

Days are counted from 1970-01-01 and a date is a year, a month and a day of the calendar extended
in both directions.  Within an era of 400 years the year is taken to begin in March, so that the
leap day is the last of its year.
-/

/-- A date. -/
structure Date where
  /-- The year; the year before 1 is 0. -/
  year : Int
  /-- The month, from 1 to 12. -/
  month : Nat
  /-- The day of the month, from 1. -/
  day : Nat
deriving DecidableEq

/-- The days of an era of 400 years. -/
def daysPerEra : Int := 146097

/-- The days from 0000-03-01 to 1970-01-01. -/
def epochOffset : Int := 719468

/-- The date that comes the given number of days after 1970-01-01. -/
def dateOfDay (day : Int) : Date :=
  let z := day + epochOffset
  let era := z / daysPerEra
  let dayOfEra := (z % daysPerEra).toNat
  let yearOfEra :=
    (dayOfEra - dayOfEra / 1460 + dayOfEra / 36524 - dayOfEra / 146096) / 365
  let dayOfYear := dayOfEra - (365 * yearOfEra + yearOfEra / 4 - yearOfEra / 100)
  let shifted := (5 * dayOfYear + 2) / 153
  let month := if shifted < 10 then shifted + 3 else shifted - 9
  ⟨yearOfEra + era * 400 + (if month ≤ 2 then 1 else 0), month,
    dayOfYear - (153 * shifted + 2) / 5 + 1⟩

/-- The number of days from 1970-01-01 to a date. -/
def dayOfDate (d : Date) : Int :=
  let year := if d.month ≤ 2 then d.year - 1 else d.year
  let era := year / 400
  let yearOfEra := (year % 400).toNat
  let shifted := if d.month > 2 then d.month - 3 else d.month + 9
  let dayOfYear := (153 * shifted + 2) / 5 + d.day - 1
  let dayOfEra := yearOfEra * 365 + yearOfEra / 4 - yearOfEra / 100 + dayOfYear
  era * daysPerEra + dayOfEra - epochOffset

/-- Whether a date exists. -/
def Date.isValid (d : Date) : Bool :=
  1 ≤ d.month && d.month ≤ 12 && 1 ≤ d.day && d.day ≤ 31 && dateOfDay (dayOfDate d) = d

example : dateOfDay 0 = ⟨1970, 1, 1⟩ := by decide

example : dateOfDay 11016 = ⟨2000, 2, 29⟩ := by decide

example : dateOfDay (-719529) = ⟨-1, 12, 31⟩ := by decide

end CredentialBroker.Calendar
