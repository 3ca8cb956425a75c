import AuditSearch.Sql.Time.Reader

/-!
Modifiers of points in time: what a number counts, where the clock stands, how far to go, and how a day that
its month does not have is treated.
-/
namespace AuditSearch.Sql

/-- What an amount of time is counted in. -/
inductive TimeUnit where
  | second
  | minute
  | hour
  | day
  | month
  | year
  deriving DecidableEq, Repr

namespace TimeUnit

def all : List TimeUnit :=
  [second, minute, hour, day, month, year]

def name : TimeUnit → String
  | second => "second"
  | minute => "minute"
  | hour => "hour"
  | day => "day"
  | month => "month"
  | year => "year"

def limit : TimeUnit → Rat
  | second => 464269992787968
  | minute => 7737900007424
  | hour => 128969998336
  | day => 5373485
  | month => 176546
  | year => 14713

/-- The seconds of one, where a month and a year have equally many days each. -/
def seconds : TimeUnit → Int
  | second => 1
  | minute => 60
  | hour => 3600
  | day => 86400
  | month => 30 * 86400
  | year => 365 * 86400

/-- The unit of a name, behind which an `s` may stand. -/
def named? (cs : List Char) : Option TimeUnit :=
  let folded := Text.asciiFold cs
  all.find? fun u => folded == u.name.toList || folded == u.name.toList ++ ['s']

def months? : TimeUnit → Option Int
  | month => some 1
  | year => some 12
  | second | minute | hour | day => none

end TimeUnit

/-- A span from a point to another one: years, months and days, and milliseconds. -/
structure TimeSpan where
  months : Int
  days : Int
  millis : Int
  deriving DecidableEq, Repr

inductive Modifier where
  /-- A number counts days or seconds, as its size tells. -/
  | auto
  | ceiling
  | floor
  | julianDay
  | unixEpoch
  | localTime
  | utc
  | showMillis
  | weekday (n : Nat)
  | startOf (unit : TimeUnit)
  /-- Further by a date, and by a time of day if there is one. -/
  | byDate (span : TimeSpan) (hasTime : Bool)
  | byTime (millis : Int)
  | byUnit (amount : Real) (unit : TimeUnit)

namespace Modifier

def spanMillis? (cs : List Char) : Option Int := do
  let (t, zone) ← DayTime.read? cs
  let n := (TimePoint.ofDayTime t zone).withMillis.millis.getD 0
  some ((n + TimePoint.millisPerDay / 2) % TimePoint.millisPerDay)

def amountLength (cs : List Char) : Nat :=
  let hasYear (digits : Nat) : Bool := (field? digits 0 14712 (cs.drop 1)).isSome
  let isEnd (c : Char) (i : Nat) : Bool :=
    c == ':' || isSpace c || (c == '-' && ((i == 5 && hasYear 4) || (i == 6 && hasYear 5)))
  1 + (cs.zipIdx.tail.takeWhile fun (c, i) => !isEnd c i).length

def signOf : List Char → Int
  | '-' :: _ => -1
  | _ => 1

/-- Reads a span of years, months and days with a sign, whose year has so many digits. -/
def byDate? (digits : Nat) (cs : List Char) : Option Modifier := do
  let sign := signOf cs
  let start ← (mark? '+' cs).or (mark? '-' cs)
  let (years, rest) ← field? digits 0 14712 start
  let rest ← mark? '-' rest
  let (months, rest) ← field? 2 0 11 rest
  let rest ← mark? '-' rest
  let (days, rest) ← field? 2 0 30 rest
  let span : TimeSpan := ⟨sign * (12 * years + months), sign * days, 0⟩
  match rest with
  | [] => some (.byDate span false)
  | c :: rest => do
    if isSpace c then
      let millis ← spanMillis? rest
      some (.byDate { span with millis := sign * millis } true)
    else none

def step? (cs : List Char) : Option Modifier := do
  let n := amountLength cs
  let amount ← number? (String.ofList (cs.take n))
  match cs.drop n with
  | '-' :: _ => byDate? (n - 1) cs
  | ':' :: _ =>
    let written := if (cs.head?.map Text.isDigit).getD false then cs else cs.drop 1
    (spanMillis? written).map fun millis => .byTime (signOf cs * millis)
  | rest => do
    let unit ← TimeUnit.named? (rest.dropWhile isSpace)
    let r : Real :=
      match amount with
      | .integer n => .ofInt n
      | .real r => r
    let isInside := r.order (.finite unit.limit) == .lt && r.order (.finite (-unit.limit)) == .gt
    if isInside then some (.byUnit r unit) else none

/-- The weekday of a number from 0, which is Sunday. -/
def weekday? (cs : List Char) : Option Modifier := do
  let q ←
    match ← number? (String.ofList cs) with
    | .integer n => some (n : Rat)
    | .real (.finite q) => some q
    | .real _ => none
  if q.den = 1 ∧ 0 ≤ q.num ∧ q.num < 7 then some (.weekday q.num.toNat) else none

def read? (cs : List Char) : Option Modifier :=
  match String.ofList (Text.asciiFold cs) with
  | "auto" => some auto
  | "ceiling" => some ceiling
  | "floor" => some floor
  | "julianday" => some julianDay
  | "localtime" => some localTime
  | "unixepoch" => some unixEpoch
  | "utc" => some utc
  | "subsec" | "subsecond" => some showMillis
  | "start of day" => some (startOf .day)
  | "start of month" => some (startOf .month)
  | "start of year" => some (startOf .year)
  | _ =>
    if Text.asciiFold (cs.take 8) == "weekday ".toList then weekday? (cs.drop 8)
    else
      match cs with
      | c :: _ => if c = '+' ∨ c = '-' ∨ Text.isDigit c then step? cs else none
      | [] => none

def epochToMillis (r : Real) : Real :=
  r.timesPlus (.ofInt 1000) (.ofInt TimePoint.epochMillis)

def atMillis (p : TimePoint) (r : Real) : TimePoint :=
  { p.bare with millis := some (r.timesPlus (.ofInt 1) .half).truncate, raw := none }

/-- A number counts seconds since 1970, unless it counted days before; it stays as it is if it is too large. -/
def applyAuto (p : TimePoint) : TimePoint :=
  match p.raw, p.millis with
  | some r, none =>
    if r.order (.ofInt (-210866760000)) != .lt && r.order (.ofInt 253402300799) != .gt then
      atMillis p (epochToMillis r)
    else p
  | _, _ => { p with raw := none }

def applyStart (unit : TimeUnit) (p : TimePoint) : TimePoint :=
  let p := p.withDate
  let date := p.date.map fun d =>
    match unit with
    | .month => { d with day := 1 }
    | .year => { d with month := 1, day := 1 }
    | _ => d
  { p with date, time := some .midnight, raw := none, zone := 0, millis := none }

def applyWeekday (n : Nat) (p : TimePoint) : TimePoint :=
  let p := { p.withParts with zone := 0, millis := none }.withMillis
  let today := ((p.millis.getD 0 + 3 * (TimePoint.millisPerDay / 2)) / TimePoint.millisPerDay) % 7
  (p.later (((n : Int) - today) % 7 * TimePoint.millisPerDay)).bare

/-- The point further by an amount of a unit. Whole months and years lead to the same day of another month. -/
def applyUnit (amount : Real) (unit : TimeUnit) (p : TimePoint) : TimePoint :=
  let p := { p.withMillis with excess := 0 }
  let whole := amount.truncate
  let (p, rest) : TimePoint × Real :=
    match unit.months? with
    | some months =>
      (p.withParts.mapDate fun d => TimePoint.addMonths d (months * whole),
        amount.timesPlus (.ofInt 1) (.ofInt (-whole)))
    | none => (p, amount)
  let rounder := if amount.isNegative then Real.half.neg else Real.half
  let millis := (rest.timesPlus (.ofInt 1000) .zero).timesPlus (.ofInt unit.seconds) rounder
  (p.withMillis.later millis.truncate).bare

def modify? (isFirst : Bool) (p : TimePoint) : Modifier → Option TimePoint
  | auto => if isFirst then some (applyAuto p) else none
  | ceiling => some { p.withMillis.bare with excess := 0 }
  | floor =>
    let p := p.withMillis
    some (p.later (-(p.excess : Int) * TimePoint.millisPerDay)).bare
  | julianDay => if isFirst && p.millis.isSome && p.raw.isSome then some { p with raw := none } else none
  | unixEpoch =>
    match p.raw with
    | none => none
    | some r =>
      let millis := epochToMillis r
      if isFirst && millis.order .zero != .lt && millis.order (.ofInt (TimePoint.maxMillis + 1)) == .lt then
        some (atMillis p millis)
      else none
  | localTime =>
    let p := if p.isLocal then p else p.shown
    some { p with isUtc := false, isLocal := true }
  | utc => some (if p.isUtc then p else p.utc)
  | showMillis => some { p with showsMillis := true }
  | weekday n => some (applyWeekday n p)
  | startOf unit =>
    if p.millis.isNone && p.date.isNone && p.time.isNone then none else some (applyStart unit p)
  | byDate span hasTime =>
    let p := (p.withParts.mapDate fun d => TimePoint.addMonths d span.months).withMillis
    let p := ({ p with date := none, time := none }.later (span.days * TimePoint.millisPerDay))
    some (if hasTime then (p.withMillis.later span.millis).bare else p)
  | byTime millis => some (p.withMillis.later millis).bare
  | byUnit amount unit => some (applyUnit amount unit p)

end Modifier

end AuditSearch.Sql
