import AuditSearch.Sql.Number
import AuditSearch.Sql.Time.Basic
import AuditSearch.Text.Lower

/-!
Written points in time: a date, a time of day behind it or alone, a word for the present moment, or a number.
-/
namespace AuditSearch.Sql

def field? (count least most : Nat) (cs : List Char) : Option (Nat × List Char) :=
  let ds := cs.take count
  let n := Nat.ofDigitChars 10 ds 0
  if ds.length = count ∧ ds.all Text.isDigit ∧ least ≤ n ∧ n ≤ most then some (n, cs.drop count) else none

def mark? (c : Char) : List Char → Option (List Char)
  | d :: cs => if d = c then some cs else none
  | [] => none

/-- How far written clocks are ahead of UTC. -/
inductive Zone where
  | unsaid
  | utc
  | ahead (minutes : Int)
  deriving DecidableEq, Repr

namespace Zone

def read? (cs : List Char) : Option Zone :=
  let hours (sign : Int) (cs : List Char) : Option Zone := do
    let (h, rest) ← field? 2 0 14 cs
    let rest ← mark? ':' rest
    let (m, rest) ← field? 2 0 59 rest
    if rest.all isSpace then some (.ahead (sign * (60 * h + m))) else none
  match cs.dropWhile isSpace with
  | [] => some unsaid
  | 'Z' :: rest | 'z' :: rest => if rest.all isSpace then some utc else none
  | '-' :: rest => hours (-1) rest
  | '+' :: rest => hours 1 rest
  | _ => none

def minutes : Zone → Int
  | ahead n => n
  | unsaid | utc => 0

end Zone

namespace DayTime

def fraction (ds : List Char) : Real :=
  let (n, scale) := ds.foldl (fun (s : Real × Real) d =>
    (s.1.timesPlus (.ofInt 10) (.ofInt (d.toNat - '0'.toNat : Nat)), s.2.timesPlus (.ofInt 10) .zero))
    (.zero, .ofInt 1)
  (n.div? scale).getD .zero

def seconds? : List Char → Option (Real × List Char)
  | ':' :: cs => do
    let (s, rest) ← field? 2 0 59 cs
    match rest with
    | '.' :: d :: more =>
      if Text.isDigit d then
        let (ds, rest) := (d :: more).span Text.isDigit
        some ((fraction ds).timesPlus (.ofInt 1) (.ofInt s), rest)
      else some (.ofInt s, rest)
    | rest => some (.ofInt s, rest)
  | cs => some (.zero, cs)

def read? (cs : List Char) : Option (DayTime × Zone) := do
  let (hour, rest) ← field? 2 0 24 cs
  let rest ← mark? ':' rest
  let (minute, rest) ← field? 2 0 59 rest
  let (second, rest) ← seconds? rest
  let zone ← Zone.read? rest
  some (⟨hour, minute, second⟩, zone)

end DayTime

namespace TimePoint

def ofDayTime (t : DayTime) (zone : Zone) : TimePoint :=
  { unknown with time := some t, zone := zone.minutes, isUtc := zone == .utc }

def date? (cs : List Char) : Option (Date × List Char) := do
  let (isNegative, cs) : Bool × List Char :=
    match cs with
    | '-' :: cs => (true, cs)
    | cs => (false, cs)
  let (year, rest) ← field? 4 0 14712 cs
  let rest ← mark? '-' rest
  let (month, rest) ← field? 2 1 12 rest
  let rest ← mark? '-' rest
  let (day, rest) ← field? 2 1 31 rest
  some (⟨if isNegative then -(year : Int) else year, month, day⟩, rest)

def ofDateText? (cs : List Char) : Option TimePoint := do
  let (date, rest) ← date? cs
  let rest := rest.dropWhile fun c => isSpace c || c == 'T'
  let p ←
    match rest with
    | [] => some unknown
    | rest => (DayTime.read? rest).map fun (t, zone) => ofDayTime t zone
  let p := { p with date := some date, excess := excessOf date }
  some (if p.zone = 0 then p else p.withMillis)

/-- The point of a number, which counts days until another use of it is asked for. -/
def ofReal (r : Real) : TimePoint :=
  let isDay := r.order .zero != .lt && r.order (.finite (10746969 / 2)) == .lt
  { unknown with
    raw := some r
    millis := if isDay then some (r.timesPlus (.ofInt 86400000) .half).truncate else none }

def ofText? (cs : List Char) : Option TimePoint :=
  match ofDateText? cs, DayTime.read? cs with
  | some p, _ => some p
  | none, some (t, zone) => some (ofDayTime t zone)
  | none, none =>
    match String.ofList (Text.asciiFold cs), number? (String.ofList cs) with
    | "now", _ => some present
    | _, some (.integer n) => some (ofReal (.ofInt n))
    | _, some (.real r) => some (ofReal r)
    | "subsec", none | "subsecond", none => some { present with showsMillis := true }
    | _, none => none

end TimePoint

end AuditSearch.Sql
