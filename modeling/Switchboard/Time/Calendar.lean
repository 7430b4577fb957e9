/-!
# The calendar

Days counted from 1970-01-01 in the Gregorian calendar, extended in both directions. A year is taken
to begin in March here, so that the day of a leap year is its last one.
-/

namespace Switchboard

structure Date where
  /-- Astronomical year: the year before 1 is 0. -/
  year : Int
  month : Nat
  day : Nat
  deriving DecidableEq, Repr

namespace Date

/-- Days from 0000-03-01 to 1970-01-01. -/
def offset : Int := 719468

/-- Days before a month of a year that begins in March. -/
def daysBefore (month : Nat) : Nat :=
  (153 * ((month + 9) % 12) + 2) / 5

/-- The year has a 29th of February. -/
def isLeap (year : Int) : Bool :=
  year % 4 = 0 && (year % 100 ≠ 0 || year % 400 = 0)

def monthLength (year : Int) (month : Nat) : Nat :=
  if month = 2 then (if isLeap year then 29 else 28)
  else if month = 4 ∨ month = 6 ∨ month = 9 ∨ month = 11 then 30
  else 31

def isValid (d : Date) : Bool :=
  1 ≤ d.month && d.month ≤ 12 && 1 ≤ d.day && d.day ≤ monthLength d.year d.month

def toDays (d : Date) : Int :=
  let y := if d.month ≤ 2 then d.year - 1 else d.year
  365 * y + y / 4 - y / 100 + y / 400 + daysBefore d.month + d.day - 1 - offset

/-- The date that many days after 1970-01-01. -/
def ofDays (days : Int) : Date :=
  let z := days + offset
  let era := z / 146097
  let dayOfEra := z % 146097
  let yearOfEra := (dayOfEra - dayOfEra / 1460 + dayOfEra / 36524 - dayOfEra / 146096) / 365
  let dayOfYear := (dayOfEra - (365 * yearOfEra + yearOfEra / 4 - yearOfEra / 100)).toNat
  let month := (5 * dayOfYear + 2) / 153
  let day := dayOfYear - (153 * month + 2) / 5 + 1
  let month := if month < 10 then month + 3 else month - 9
  ⟨yearOfEra + era * 400 + (if month ≤ 2 then 1 else 0), month, day⟩

/-- The first year that a time may have. -/
def firstYear : Int := -262143

/-- The last year that a time may have. -/
def lastYear : Int := 262142

end Date

end Switchboard
