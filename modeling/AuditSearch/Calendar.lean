import AuditSearch.Text.Numeral

/-!
The proleptic Gregorian calendar. Day numbers count from 1970-01-01; a bound of a local day is an
instant in seconds from the start of that day, UTC.
-/
namespace AuditSearch

structure Date where
  year : Int
  month : Nat
  day : Nat
  deriving DecidableEq, Repr

/-- A date with a time of day. -/
structure Moment where
  date : Date
  hour : Nat
  minute : Nat
  second : Nat
  deriving DecidableEq, Repr

/-- The two ends of a day, each a whole second of it. -/
inductive DayBound where
  | start
  | finish
  deriving DecidableEq, Repr

namespace Calendar

def secondsPerDay : Int :=
  86400

def isLeap (year : Int) : Bool :=
  decide (year % 4 = 0) && (decide (year % 100 ≠ 0) || decide (year % 400 = 0))

def daysInMonth (year : Int) : Nat → Nat
  | 2 => if isLeap year then 29 else 28
  | 4 | 6 | 9 | 11 => 30
  | _ => 31

/-- Days of a year before its month `month`, which counts from 1. -/
def daysBeforeMonth (year : Int) : Nat → Nat
  | 0 | 1 => 0
  | month + 2 => daysBeforeMonth year (month + 1) + daysInMonth year (month + 1)

/-- Days from the start of year 0 to the start of `year`. -/
def daysBeforeYear (year : Int) : Int :=
  365 * year + (year + 3) / 4 - (year + 99) / 100 + (year + 399) / 400

/-- Days from the start of year 0 to 1970-01-01. -/
def epochDay : Int :=
  719528

/-- Days in 400 years, after which the calendar repeats. -/
def cycleDays : Int :=
  146097

def isValid (d : Date) : Bool :=
  decide (1 ≤ d.month) && decide (d.month ≤ 12) && decide (1 ≤ d.day) &&
    decide (d.day ≤ daysInMonth d.year d.month)

def dayNumber (d : Date) : Int :=
  daysBeforeYear d.year + daysBeforeMonth d.year d.month + (d.day - 1) - epochDay

/-- The greatest number up to `bound` that passes the test, or 0. -/
def greatest (test : Nat → Bool) : Nat → Nat
  | 0 => 0
  | bound + 1 => if test (bound + 1) then bound + 1 else greatest test bound

/-- The date of a day number: the last year, and in it the last month, that has begun. -/
def ofDayNumber (n : Int) : Date :=
  let days := n + epochDay
  let inCycle := days % cycleDays
  let yearOfCycle := greatest (fun y => decide (daysBeforeYear y ≤ inCycle)) 399
  let year := days / cycleDays * 400 + yearOfCycle
  let inYear := inCycle - daysBeforeYear yearOfCycle
  let month := 1 + greatest (fun m => decide ((daysBeforeMonth year (m + 1) : Int) ≤ inYear)) 11
  ⟨year, month, (inYear - daysBeforeMonth year month).toNat + 1⟩

def firstYear : Int :=
  -262143

def lastYear : Int :=
  262142

/-- The moment of an instant in UTC, if its year has moments. -/
def moment? (seconds : Int) : Option Moment :=
  let date := ofDayNumber (seconds / secondsPerDay)
  let inDay := (seconds % secondsPerDay).toNat
  if firstYear ≤ date.year ∧ date.year ≤ lastYear then
    some ⟨date, inDay / 3600, inDay / 60 % 60, inDay % 60⟩
  else none

/-- Reads a date written with four, two and two digits and dashes between them. -/
def parseDate? (s : String) : Option Date :=
  match s.toList with
  | [a, b, c, d, '-', e, f, '-', g, h] => do
    let year ← Text.nat? [a, b, c, d]
    let month ← Text.nat? [e, f]
    let day ← Text.nat? [g, h]
    let date : Date := ⟨year, month, day⟩
    if isValid date then some date else none
  | _ => none

def boundSeconds : DayBound → Int
  | .start => 0
  | .finish => secondsPerDay - 1

/-- The instant of a bound of the written day, where local time is `offset` seconds ahead of UTC. -/
def boundInstant? (s : String) (bound : DayBound) (offset : Int) : Option Int :=
  (parseDate? s).map fun date => dayNumber date * secondsPerDay + boundSeconds bound - offset

end Calendar

/-- The moment at which an instant falls, as seconds since the start of 1970. -/
def Moment.ofSeconds? (seconds : Int64) : Option Moment :=
  Calendar.moment? seconds.toInt

end AuditSearch
