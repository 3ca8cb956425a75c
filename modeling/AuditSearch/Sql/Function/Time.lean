import AuditSearch.Sql.Function.Text
import AuditSearch.Sql.Time.Modifier

/-!
Functions of points in time. The first argument tells the point, the others modify it; without arguments it is
the present moment.
-/
namespace AuditSearch.Sql

namespace TimePoint

def ofValue? : Value → Option TimePoint
  | .integer n => some (ofReal (.ofInt n))
  | .real r => some (ofReal r)
  | v => v.text?.bind fun s => ofText? (Value.visible s.toList)

/-- The point with modifiers, of which the first one may be one that has to be. -/
def modified? : Bool → TimePoint → List Value → Option TimePoint
  | _, p, [] => some p
  | isFirst, p, v :: vs => do
    let s ← v.text?
    let m ← Modifier.read? (Value.visible s.toList)
    let p ← m.modify? isFirst p
    modified? false p vs

/-- The point that arguments tell, with its milliseconds. A date alone is put right if its month does not have
its day. -/
def ofValues? : List Value → Option TimePoint
  | [] => some present
  | v :: vs => do
    let p ← ofValue? v
    let p := (← modified? true p vs).withMillis
    if p.hasFailed || !isValid (p.millis.getD 0) then none
    else if vs.isEmpty && p.date.any fun d => decide (28 < d.day) then some { p with date := none }
    else some p

def shownDate (p : TimePoint) : Date :=
  p.withParts.date.getD defaultDate

def shownTime (p : TimePoint) : DayTime :=
  p.withParts.time.getD .midnight

/-- Whole seconds since 1970. -/
def seconds (p : TimePoint) : Int :=
  (p.millis.getD 0).tdiv 1000 - epochMillis / 1000

def exactSeconds (p : TimePoint) : Real :=
  .ofRat ((p.millis.getD 0 - epochMillis) / 1000 : Rat)

/-- Days since noon of -4713-11-24. -/
def julianDay (p : TimePoint) : Real :=
  .ofRat ((p.millis.getD 0) / millisPerDay : Rat)

def daysSinceMonday (p : TimePoint) : Int :=
  (p.millis.getD 0 + millisPerDay / 2) / millisPerDay % 7

def daysSinceSunday (p : TimePoint) : Int :=
  (p.daysSinceMonday + 1) % 7

/-- Days since the year that is shown started, where the point is at its time of day then. -/
def daysSinceNewYear (p : TimePoint) : Int :=
  let start := { p.withParts with date := some ⟨p.shownDate.year, 1, 1⟩, millis := none }.withMillis
  (p.millis.getD 0 - start.millis.getD 0 + millisPerDay / 2).tdiv millisPerDay

/-- The Thursday of the same week, at the same time of day. -/
def thursday (p : TimePoint) : TimePoint :=
  let p := p.withParts
  { p.later ((3 - p.daysSinceMonday) * millisPerDay) with date := none }.withParts

end TimePoint

/-! How points in time are written. -/
namespace TimeText

def padded (width : Nat) (n : Int) : List Char :=
  IntegerForm.decimal.write { Style.plain with isZeroPadded := true, width } n

/-- A number with a space in front of it if it has one digit. -/
def spaced (n : Nat) : List Char :=
  if n < 10 then ' ' :: Text.natDigits n else Text.natDigits n

def thousandths (r : Real) : List Char :=
  RealForm.fixed.write { Style.plain with precision := some 3 } false r

def paddedSeconds (r : Real) : List Char :=
  RealForm.fixed.write { Style.plain with precision := some 3, isZeroPadded := true, width := 6 } false r

def date (d : Date) : List Char :=
  padded 4 d.year ++ '-' :: padded 2 d.month ++ '-' :: padded 2 d.day

def minutes (t : DayTime) : List Char :=
  padded 2 t.hour ++ ':' :: padded 2 t.minute

/-- A date as a result; a year has four digits. -/
def shownDate (p : TimePoint) : List Char :=
  let d := p.shownDate
  (if d.year < 0 then ['-'] else []) ++ date { d with year := d.year.natAbs }

def shownTime (p : TimePoint) : List Char :=
  let t := p.shownTime
  let seconds : List Char :=
    if p.showsMillis then
      let n := (t.second.timesPlus (.ofInt 1000) .half).truncate
      padded 2 (n / 1000) ++ '.' :: padded 3 (n % 1000)
    else padded 2 t.second.truncate
  minutes t ++ ':' :: seconds

def maxSecond : Real :=
  .ofRat (59999 / 1000)

def halfDayHour (hour : Nat) : Nat :=
  let h := if 12 < hour then hour - 12 else hour
  if h = 0 then 12 else h

def sinceEpoch (p : TimePoint) : List Char :=
  if p.showsMillis then thousandths p.exactSeconds else (Text.ofInt p.seconds).toList

def part? (p : TimePoint) (letter : Char) : Option (List Char) :=
  let d := p.shownDate
  let t := p.shownTime
  match letter with
  | 'd' => some (padded 2 d.day)
  | 'e' => some (spaced d.day)
  | 'f' => some (paddedSeconds (if t.second.order maxSecond == .gt then maxSecond else t.second))
  | 'F' => some (date d)
  | 'G' => some (padded 4 p.thursday.shownDate.year)
  | 'g' => some (padded 2 (p.thursday.shownDate.year.tmod 100))
  | 'H' => some (padded 2 t.hour)
  | 'k' => some (spaced t.hour)
  | 'I' => some (padded 2 (halfDayHour t.hour))
  | 'l' => some (spaced (halfDayHour t.hour))
  | 'j' => some (padded 3 (p.daysSinceNewYear + 1))
  | 'J' => some (RealForm.general.write { Style.plain with precision := some 16 } false p.julianDay)
  | 'm' => some (padded 2 d.month)
  | 'M' => some (padded 2 t.minute)
  | 'p' => some (if 12 ≤ t.hour then ['P', 'M'] else ['A', 'M'])
  | 'P' => some (if 12 ≤ t.hour then ['p', 'm'] else ['a', 'm'])
  | 'R' => some (minutes t)
  | 's' => some (sinceEpoch p)
  | 'S' => some (padded 2 t.second.truncate)
  | 'T' => some (minutes t ++ ':' :: padded 2 t.second.truncate)
  | 'u' => some (Text.natDigits (p.daysSinceMonday + 1).toNat)
  | 'w' => some (Text.natDigits p.daysSinceSunday.toNat)
  | 'U' => some (padded 2 ((p.daysSinceNewYear - p.daysSinceSunday + 7).tdiv 7))
  | 'V' => some (padded 2 (p.thursday.daysSinceNewYear.tdiv 7 + 1))
  | 'W' => some (padded 2 ((p.daysSinceNewYear - p.daysSinceMonday + 7).tdiv 7))
  | 'Y' => some (padded 4 d.year)
  | '%' => some ['%']
  | _ => none

/-- The text of a format, whose characters are those of its bytes. There is none if a letter behind a percent sign stands for nothing. -/
def format? (p : TimePoint) : List Char → Option (List Char)
  | [] => some []
  | ['%'] => none
  | '%' :: letter :: cs => do
    let part ← part? p letter
    let rest ← format? p cs
    some (part ++ rest)
  | c :: cs => (format? p cs).map (c :: ·)

end TimeText

/-! Differences of points in time: the months between their dates, and what is left in milliseconds. -/
namespace TimeDifference

/-- A point with another month, and its milliseconds then. -/
def inMonth (p : TimePoint) (year : Int) (month : Nat) : TimePoint :=
  let date := p.date.map fun d => { d with year, month }
  { p with date, millis := none }.withMillis

/-- Moves a point month by month towards another one until it is no longer beyond it; counts the months that it
took too many. -/
def settle (isBeyond : TimePoint → Bool) (step : Int) : Nat → TimePoint → Int → TimePoint × Int
  | 0, p, months => (p, months)
  | fuel + 1, p, months =>
    if isBeyond p then
      let date := (p.date.map fun d => TimePoint.addMonths d step).getD TimePoint.defaultDate
      settle isBeyond step fuel (inMonth p date.year date.month) (months - 1)
    else (p, months)

def monthsBetween (a b : Date) : Int :=
  12 * (b.year - a.year) + b.month - a.month

/-- The text of a difference: its sign, years, months, days and a time of day. -/
def write (a b : TimePoint) : List Char :=
  let (a, b) := (a.withParts, b.withParts)
  let n := a.millis.getD 0
  let isLater := decide (b.millis.getD 0 ≤ n)
  let date := a.date.getD TimePoint.defaultDate
  let months := monthsBetween (b.date.getD TimePoint.defaultDate) date
  let moved := if months = 0 then b else inMonth b date.year date.month
  let isBeyond (p : TimePoint) : Bool :=
    if isLater then decide (n < p.millis.getD 0) else decide (p.millis.getD 0 < n)
  let (moved, months) := settle isBeyond (if isLater then -1 else 1) 4 moved (if isLater then months else -months)
  let rest := (n - moved.millis.getD 0).natAbs + 148699540800000
  let p : TimePoint := { TimePoint.unknown with millis := some rest }
  (if isLater then '+' else '-') :: TimeText.padded 4 (months / 12) ++ '-' :: TimeText.padded 2 (months % 12) ++
    '-' :: TimeText.padded 2 (p.shownDate.day - 1) ++ ' ' :: TimeText.minutes p.shownTime ++
    ':' :: TimeText.paddedSeconds p.shownTime.second

end TimeDifference

namespace Value

/-- A result for the point that arguments tell, null if they tell none. -/
def onTime (f : TimePoint → Value) (vs : List Value) : Value :=
  ((TimePoint.ofValues? vs).map f).getD null

def dateText (vs : List Value) : Value :=
  onTime (fun p => ofChars (TimeText.shownDate p)) vs

def timeText (vs : List Value) : Value :=
  onTime (fun p => ofChars (TimeText.shownTime p)) vs

def dateTimeText (vs : List Value) : Value :=
  onTime (fun p => ofChars (TimeText.shownDate p ++ ' ' :: TimeText.shownTime p)) vs

def julianDay (vs : List Value) : Value :=
  onTime (fun p => real p.julianDay) vs

def unixEpoch (vs : List Value) : Value :=
  onTime (fun p => if p.showsMillis then real p.exactSeconds else integer p.seconds) vs

/-- The point that the arguments behind a format tell, written as the format says. -/
def formatTime : List Value → Value
  | [] => null
  | v :: vs =>
    v.onBytes fun bytes =>
      let cs := Text.charsOfBytes (visibleBytes bytes)
      onTime (fun p => ((TimeText.format? p cs).map ofCodes).getD null) vs

def timeDifference (x y : Value) : Value :=
  match TimePoint.ofValues? [x], TimePoint.ofValues? [y] with
  | some a, some b => ofChars (TimeDifference.write a b)
  | _, _ => null

end Value

end AuditSearch.Sql
