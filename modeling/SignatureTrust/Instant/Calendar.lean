import SignatureTrust.Instant

/-!
# `Instant.Calendar` — dates and times of day

The proleptic Gregorian calendar, counted in days from 1970-01-01. Both directions go through the
year that begins in March, so that the leap day is the last of its year and a month's offset is
linear in it: 400 years are always 146097 days.
-/

set_option autoImplicit false

namespace SignatureTrust

/-- A day of the proleptic Gregorian calendar; year 0 is the year before year 1. -/
structure Date where
  year : Int
  month : Nat
  day : Nat
deriving DecidableEq, Repr

structure ClockTime where
  hour : Nat
  minute : Nat
  second : Nat
deriving DecidableEq, Repr

namespace Date

def isLeapYear (y : Int) : Bool :=
  y % 4 == 0 && (y % 100 != 0 || y % 400 == 0)

def daysInMonth (y : Int) (m : Nat) : Nat :=
  if m == 2 then (if isLeapYear y then 29 else 28)
  else if m == 4 || m == 6 || m == 9 || m == 11 then 30
  else 31

def exists? (d : Date) : Bool :=
  1 ≤ d.month && d.month ≤ 12 && 1 ≤ d.day && d.day ≤ daysInMonth d.year d.month

/-- Days from 1970-01-01 to a date. -/
def toDays (d : Date) : Int :=
  let y := if d.month ≤ 2 then d.year - 1 else d.year
  let era := y.fdiv 400
  let yearOfEra := y - era * 400
  let fromMarch : Int := (d.month + 9) % 12
  let dayOfYear := (153 * fromMarch + 2) / 5 + d.day - 1
  let dayOfEra := yearOfEra * 365 + yearOfEra / 4 - yearOfEra / 100 + dayOfYear
  era * 146097 + dayOfEra - 719468

def ofDays (days : Int) : Date :=
  let z := days + 719468
  let era := z.fdiv 146097
  let dayOfEra := z - era * 146097
  let yearOfEra := (dayOfEra - dayOfEra / 1460 + dayOfEra / 36524 - dayOfEra / 146096) / 365
  let dayOfYear := dayOfEra - (365 * yearOfEra + yearOfEra / 4 - yearOfEra / 100)
  let fromMarch := (5 * dayOfYear + 2) / 153
  let day := dayOfYear - (153 * fromMarch + 2) / 5 + 1
  let month := if fromMarch < 10 then fromMarch + 3 else fromMarch - 9
  let year := yearOfEra + era * 400 + (if month ≤ 2 then 1 else 0)
  { year := year, month := month.toNat, day := day.toNat }

end Date

namespace ClockTime

/-- Whether the hour, minute and second are those of a day without leap seconds. -/
def exists? (t : ClockTime) : Bool := t.hour < 24 && t.minute < 60 && t.second < 60

def toSeconds (t : ClockTime) : Nat := t.hour * 3600 + t.minute * 60 + t.second

def ofSeconds (s : Nat) : ClockTime :=
  { hour := s / 3600, minute := s / 60 % 60, second := s % 60 }

end ClockTime

namespace Instant

def ofCalendar (d : Date) (t : ClockTime) : Instant :=
  ofSeconds (d.toDays * 86400 + t.toSeconds)

def date (t : Instant) : Date := Date.ofDays (t.seconds.fdiv 86400)

def clockTime (t : Instant) : ClockTime := ClockTime.ofSeconds (t.seconds.fmod 86400).toNat

end Instant
end SignatureTrust
