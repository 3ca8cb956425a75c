import AuditSearch.Calendar
import AuditSearch.Sql.Real

/-!
Points in time as a clause computes with them: in milliseconds, or as a date with a time of day. What is not
known of a point is computed from what is. A point may lie outside of all years, which is a failure.
-/
namespace AuditSearch.Sql

/-- A time of day, with any fraction of a second. -/
structure DayTime where
  hour : Nat
  minute : Nat
  second : Real
  deriving DecidableEq

structure TimePoint where
  /-- Milliseconds since noon of -4713-11-24, if they are known. -/
  millis : Option Int
  date : Option Date
  time : Option DayTime
  /-- How many minutes the time of day is ahead of UTC. -/
  zone : Int
  /-- A number of which it is not said yet what it counts. -/
  raw : Option Real
  /-- How many days the date is behind the last one of its month. -/
  excess : Nat
  hasFailed : Bool
  showsMillis : Bool
  isUtc : Bool
  isLocal : Bool

namespace DayTime

def midnight : DayTime :=
  ⟨0, 0, .zero⟩

def millis (t : DayTime) : Int :=
  t.hour * 3600000 + t.minute * 60000 + (t.second.timesPlus (.ofInt 1000) .half).truncate

/-- The time of day at which a day has so many milliseconds. -/
def ofMillis (n : Nat) : DayTime :=
  ⟨n / 60000 / 60, n / 60000 % 60, .ofRat ((n % 60000 : Nat) / 1000 : Rat)⟩

end DayTime

namespace TimePoint

def millisPerDay : Int :=
  86400000

def epochMillis : Int :=
  210866760000000

def maxMillis : Int :=
  464269060799999

def isValid (millis : Int) : Bool :=
  decide (0 ≤ millis) && decide (millis ≤ maxMillis)

/-- The milliseconds at which a date starts. Years are counted from March on; the centuries that have no leap
day are counted from year 0 in both directions. -/
def startOf (d : Date) : Int :=
  let (year, month) : Int × Int := if d.month ≤ 2 then (d.year - 1, d.month + 12) else (d.year, d.month)
  let century := year.tdiv 100
  let days := 36525 * (year + 4716) / 100 + 306001 * (month + 1) / 10000 + d.day + 2 - century + century.tdiv 4
  (2 * days - 3049) * (millisPerDay / 2)

def dateAt (millis : Int) : Date :=
  let days := (millis + millisPerDay / 2) / millisPerDay
  let century := (4 * days - 7468865).tdiv 146097
  let n := days + 1525 + century - century.tdiv 4
  let year := (20 * n - 2442) / 7305
  let inYear := n - 36525 * year / 100
  let month := 10000 * inYear / 306001
  let day := inYear - 306001 * month / 10000
  if month < 14 then ⟨if month ≤ 3 then year - 4715 else year - 4716, (month - 1).toNat, day.toNat⟩
  else ⟨year - 4715, (month - 13).toNat, day.toNat⟩

def unknown : TimePoint :=
  ⟨none, none, none, 0, none, 0, false, false, false, false⟩

def failure : TimePoint :=
  { unknown with hasFailed := true }

def bare (p : TimePoint) : TimePoint :=
  { p with date := none, time := none, zone := 0 }

/-- The moment that stands for the present one. -/
def present : TimePoint :=
  { unknown with millis := some (startOf ⟨2026, 1, 1⟩), isUtc := true }

def defaultDate : Date :=
  ⟨2000, 1, 1⟩

/-- The point with its milliseconds. In a zone other than UTC, what it was made of is forgotten. -/
def withMillis (p : TimePoint) : TimePoint :=
  if p.millis.isSome then p
  else
    let date := p.date.getD defaultDate
    if date.year < -4713 ∨ 9999 < date.year ∨ p.raw.isSome then failure
    else
      let start := startOf date
      match p.time with
      | none => { p with millis := some start }
      | some t =>
        if p.zone = 0 then { p with millis := some (start + t.millis) }
        else
          { p.bare with millis := some (start + t.millis - p.zone * 60000), isUtc := true, isLocal := false }

def withDate (p : TimePoint) : TimePoint :=
  match p.date, p.millis with
  | some _, _ => p
  | none, none => { p with date := some defaultDate }
  | none, some n =>
    if isValid n then { p with date := some (dateAt n) }
    else failure

def withTime (p : TimePoint) : TimePoint :=
  if p.time.isSome then p
  else
    let p := p.withMillis
    let n := (p.millis.getD 0 + millisPerDay / 2).tmod millisPerDay
    { p with time := some (.ofMillis n.toNat), raw := none }

def withParts (p : TimePoint) : TimePoint :=
  p.withDate.withTime

def later (p : TimePoint) (n : Int) : TimePoint :=
  { p with millis := p.millis.map (· + n) }

def excessOf (d : Date) : Nat :=
  d.day - Calendar.daysInMonth d.year d.month

/-- The date so many months later, where its month has the day or not. -/
def addMonths (d : Date) (n : Int) : Date :=
  let months := (d.month : Int) - 1 + n
  { d with year := d.year + months / 12, month := (months % 12).toNat + 1 }

/-- The point with another date, which says nothing of its milliseconds. -/
def mapDate (p : TimePoint) (f : Date → Date) : TimePoint :=
  let date := p.date.map f
  { p with date, excess := (date.map excessOf).getD 0, millis := none }

/-- Whether clocks count the seconds of a point: from 1970 to the start of 2038. -/
def isCounted (millis : Int) : Bool :=
  decide (epochMillis ≤ millis) && decide (millis ≤ 213014145600000)

/-- The years by which a date is moved to one of 1999 to 2003 that has as many days. -/
def yearsToNear (d : Date) : Int :=
  2000 + d.year.tmod 4 - d.year

/-- The point as clocks of the zone show it, which is that of UTC, in whole seconds and a fraction. A point of
which clocks do not count the seconds is shown as one near 2000 is. -/
def shown (p : TimePoint) : TimePoint :=
  let p := p.withMillis
  let n := p.millis.getD 0
  let parts := p.withParts
  let years := if isCounted n then 0 else yearsToNear (parts.date.getD { defaultDate with year := 0 })
  let nearDate := parts.date.map fun d => { d with year := d.year + years }
  let near := { parts with date := nearDate, millis := none }
  let counted := if isCounted n then n else near.withMillis.millis.getD 0
  let date := dateAt counted
  let time := DayTime.ofMillis ((counted + millisPerDay / 2) % millisPerDay / 1000 * 1000).toNat
  let second := (Real.ofInt (n.tmod 1000)).timesPlus (.ofRat (1 / 1000)) time.second
  { p with date := some { date with year := date.year - years }, time := some { time with second },
           millis := none, raw := none, zone := 0, hasFailed := false }

/-- The milliseconds at which clocks of the zone show given ones, found by guesses; `fuel` bounds them. -/
def guessUtc (wanted : Int) : Nat → Int → Int
  | 0, guess => guess
  | fuel + 1, guess =>
    let error := (shown { unknown with millis := some guess }).withMillis.millis.getD 0 - wanted
    if error = 0 then guess else guessUtc wanted fuel (guess - error)

def utc (p : TimePoint) : TimePoint :=
  let wanted := p.withMillis.millis.getD 0
  { unknown with millis := some (guessUtc wanted 3 wanted), isUtc := true }

end TimePoint

end AuditSearch.Sql
