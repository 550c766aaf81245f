import NodeDeploy.Text.Numeral

/-! # Instants and the calendar

An instant is a number of whole seconds since the start of 1970 in UTC and the nanoseconds after
them. A leap second is the second before it, prolonged: its nanoseconds start at one billion. Dates
are those of the Gregorian calendar, carried back before its introduction.

* `Instant.ofDate` and `Instant.date` go between instants and dates.
-/

namespace NodeDeploy

/-- A point in time: seconds since the start of 1970 and nanoseconds, from one billion on in a leap
second. -/
structure Instant where
  seconds : Int
  nanos : Nat
  deriving DecidableEq, Repr, Inhabited

structure Date where
  year : Int
  month : Nat
  day : Nat
  deriving DecidableEq, Repr

namespace Date

def isLeap (year : Int) : Bool :=
  year % 4 == 0 && (year % 100 != 0 || year % 400 == 0)

def daysIn (year : Int) (month : Nat) : Nat :=
  if month = 2 then (if isLeap year then 29 else 28)
  else if month = 4 ∨ month = 6 ∨ month = 9 ∨ month = 11 then 30
  else 31

def isValid (d : Date) : Bool :=
  1 ≤ d.month && d.month ≤ 12 && 1 ≤ d.day && d.day ≤ daysIn d.year d.month

/-- Days since the start of 1970. Years are counted from March, so that a leap day ends one. -/
def dayNumber (d : Date) : Int :=
  let y : Int := if d.month ≤ 2 then d.year - 1 else d.year
  let era := y / 400
  let yearOfEra := y % 400
  let monthFromMarch : Int := (d.month + 9) % 12
  let dayOfYear := (153 * monthFromMarch + 2) / 5 + d.day - 1
  let dayOfEra := yearOfEra * 365 + yearOfEra / 4 - yearOfEra / 100 + dayOfYear
  era * 146097 + dayOfEra - 719468

def ofDayNumber (n : Int) : Date :=
  let z := n + 719468
  let era := z / 146097
  let dayOfEra := z % 146097
  let yearOfEra := (dayOfEra - dayOfEra / 1460 + dayOfEra / 36524 - dayOfEra / 146096) / 365
  let dayOfYear := dayOfEra - (365 * yearOfEra + yearOfEra / 4 - yearOfEra / 100)
  let monthFromMarch := (5 * dayOfYear + 2) / 153
  let day := dayOfYear - (153 * monthFromMarch + 2) / 5 + 1
  let month := if monthFromMarch < 10 then monthFromMarch + 3 else monthFromMarch - 9
  ⟨yearOfEra + era * 400 + (if month ≤ 2 then 1 else 0), month.toNat, day.toNat⟩

end Date

namespace Instant

/-- The instant of a time of day in UTC. -/
def ofDate (d : Date) (hour minute second nanos : Nat) : Instant :=
  ⟨d.dayNumber * 86400 + (hour * 3600 + minute * 60 + second : Nat), nanos⟩

def date (t : Instant) : Date := .ofDayNumber (t.seconds / 86400)

def secondOfDay (t : Instant) : Nat := (t.seconds % 86400).toNat

def plusSeconds (t : Instant) (n : Nat) : Instant := ⟨t.seconds + n, t.nanos⟩

end Instant

end NodeDeploy
