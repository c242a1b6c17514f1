/-!
# Dates and instants

Dates are those of the Gregorian calendar, carried on in both directions. Days are counted from
1970-01-01. A year is taken to begin in March, so that the leap day is its last: then the days of
four hundred years, a *cycle*, follow one arithmetic rule, and months too begin at
`(153 * m + 2) / 5` days.

An `Instant` counts seconds since 1970-01-01T00:00:00 UTC. A leap second is written as the second
before it with a thousand million nanoseconds or more.
-/

namespace NodeTelemetry.Time

/-- A date of the calendar. -/
structure Date where
  /-- The year; year 0 is the one before year 1. -/
  year : Int
  /-- The month, from 1. -/
  month : Nat
  /-- The day of the month, from 1. -/
  day : Nat
  deriving DecidableEq, Repr, Inhabited

/-- Whether a year has a leap day. -/
def isLeap (year : Int) : Bool := year % 4 = 0 ∧ (year % 100 ≠ 0 ∨ year % 400 = 0)

/-- The number of days of a month. -/
def daysInMonth (year : Int) (month : Nat) : Nat :=
  if month = 2 then (if isLeap year then 29 else 28)
  else if month = 4 ∨ month = 6 ∨ month = 9 ∨ month = 11 then 30
  else 31

/-- Whether a date is in the calendar. -/
def Date.valid (d : Date) : Bool :=
  1 ≤ d.month ∧ d.month ≤ 12 ∧ 1 ≤ d.day ∧ d.day ≤ daysInMonth d.year d.month

/-- The days of a cycle of four hundred years. -/
def cycleDays : Int := 146097

/-- The days from 0000-03-01 to 1970-01-01. -/
def epochShift : Int := 719468

/-- The days from 1970-01-01 to a date. -/
def Date.toDays (d : Date) : Int :=
  let year := if d.month ≤ 2 then d.year - 1 else d.year
  let month : Int := if d.month ≤ 2 then d.month + 9 else d.month - 3
  let cycle := year / 400
  let yearOfCycle := year % 400
  let dayOfYear := (153 * month + 2) / 5 + d.day - 1
  let dayOfCycle := yearOfCycle * 365 + yearOfCycle / 4 - yearOfCycle / 100 + dayOfYear
  cycle * cycleDays + dayOfCycle - epochShift

/-- The date that lies a number of days after 1970-01-01. -/
def Date.ofDays (days : Int) : Date :=
  let z := days + epochShift
  let cycle := z / cycleDays
  let dayOfCycle := z % cycleDays
  let yearOfCycle :=
    (dayOfCycle - dayOfCycle / 1460 + dayOfCycle / 36524 - dayOfCycle / 146096) / 365
  let dayOfYear := dayOfCycle - (365 * yearOfCycle + yearOfCycle / 4 - yearOfCycle / 100)
  let month := (5 * dayOfYear + 2) / 153
  let day := dayOfYear - (153 * month + 2) / 5 + 1
  let year := yearOfCycle + cycle * 400
  if month < 10 then ⟨year, (month + 3).toNat, day.toNat⟩
  else ⟨year + 1, (month - 9).toNat, day.toNat⟩

/-- A point of time. -/
structure Instant where
  /-- The whole seconds since 1970-01-01T00:00:00 UTC. -/
  secs : Int
  /-- The nanoseconds after that; at least `10 ^ 9` inside a leap second. -/
  nanos : Nat
  deriving DecidableEq, Repr, Inhabited

/-- A span of time. -/
structure Span where
  /-- The whole seconds. -/
  secs : Nat
  /-- The nanoseconds after that, below `10 ^ 9`. -/
  nanos : Nat
  deriving DecidableEq, Repr, Inhabited

/-- A span of whole milliseconds. -/
def Span.ofMillis (ms : Nat) : Span := ⟨ms / 1000, ms % 1000 * 1000000⟩

/-- A date and a time of day. -/
structure DateTime where
  /-- The date. -/
  date : Date
  /-- The hour, from 0. -/
  hour : Nat
  /-- The minute, from 0. -/
  minute : Nat
  /-- The second, 60 in a leap second. -/
  second : Nat
  /-- The nanoseconds after that, below `10 ^ 9`. -/
  nanos : Nat
  deriving DecidableEq, Repr, Inhabited

/-- The seconds of a day. -/
def daySecs : Int := 86400

/-- The first year of which timestamps can speak. -/
def firstYear : Int := -262143

/-- The last year of which timestamps can speak. -/
def lastYear : Int := 262142

/-- Whether the date of an instant in UTC lies in those years. -/
def Instant.inCalendar (t : Instant) : Bool :=
  let day := t.secs / daySecs
  Date.toDays ⟨firstYear, 1, 1⟩ ≤ day ∧ day ≤ Date.toDays ⟨lastYear, 12, 31⟩

/-- The date and time of an instant in UTC. -/
def Instant.toDateTime (t : Instant) : DateTime :=
  let s := (t.secs % daySecs).toNat
  { date := .ofDays (t.secs / daySecs)
    hour := s / 3600
    minute := s % 3600 / 60
    second := s % 60 + t.nanos / 1000000000
    nanos := t.nanos % 1000000000 }

/-- The instant of a date and time that lie `offset` seconds ahead of UTC. -/
def DateTime.toInstant (t : DateTime) (offset : Int) : Instant :=
  let leap := if t.second = 60 then 1 else 0
  let inDay : Nat := t.hour * 3600 + t.minute * 60 + (t.second - leap)
  { secs := t.date.toDays * daySecs + inDay - offset
    nanos := t.nanos + leap * 1000000000 }

end NodeTelemetry.Time
