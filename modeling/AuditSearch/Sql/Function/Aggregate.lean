import AuditSearch.Sql.Expr

/-!
Functions of the rows of a group: they make a value of the values that their arguments have on each row. Sums of
numbers that are no integers keep what is lost by rounding, and add it in the end.
-/
namespace AuditSearch.Sql

namespace Value

/-- A value as it is added up: a text that is no number counts as the number at its start, which is no
integer then. -/
def summand? (v : Value) : Option Number :=
  match v.toNumeric with
  | null => none
  | integer n => some (.integer n)
  | real r => some (.real r)
  | v => some (.real v.toReal)

def extremeOf (c : Collation) (wanted : Ordering) (vs : List Value) : Value :=
  vs.foldl (fun best v =>
    if v == null then best
    else if best == null || Value.order? c best v == some wanted then v else best) null

/-- Texts in one, each but the first behind its separator. Null is left out. -/
def joinedTexts (vs : List (Value × Value)) : Value :=
  match vs.filter fun v => v.1 != null with
  | [] => null
  | (v, _) :: rest =>
    let written (w : Value) : List UInt8 := w.textBytes?.getD []
    ofTextBytes (written v ++ (rest.map fun (w, separator) => written separator ++ written w).flatten)

def namedPart? (name v : Value) : Option (List Char) :=
  v.writtenPart?.map fun value =>
    ((name.codes?.map fun cs => (WrittenText.mk .raw cs).quoted).getD []) ++ ':' :: value

/-- Values without those that are equal to some in front of them, with what belongs to them. -/
def withoutRepeats {α : Type} (c : Collation) (vs : List (List Value × α)) : List (List Value × α) :=
  vs.foldl (fun done v =>
    if done.any fun w => (w.1.zip v.1).all fun (x, y) =>
      (x == null && y == null) || Value.order? c x y == some .eq then done
    else done ++ [v]) []

end Value

/-- The sum of some numbers. While all of them are integers it is exact. Behind that it is rounded, and what is
lost at each step is added up beside it; either part may have no value. -/
structure Sum where
  count : Nat
  isExact : Bool
  exact : Int
  rounded : Option Real
  lost : Option Real
  /-- Whether the exact sum had more than 64 bits, and all numbers since then were integers. -/
  isTooGreat : Bool

namespace Sum

def empty : Sum :=
  ⟨0, true, 0, none, none, false⟩

def plus (a b : Option Real) : Option Real := do
  (← a).add? (← b)

def minus (a b : Option Real) : Option Real := do
  (← a).sub? (← b)

def addReal (s : Sum) (r : Real) : Sum :=
  let sum := plus s.rounded r
  let isLess := s.rounded.any fun x => Real.order r.abs x.abs == .lt
  let lost := if isLess then plus (minus s.rounded sum) r else plus (minus r sum) s.rounded
  { s with rounded := sum, lost := plus s.lost lost }

/-- From this magnitude on integers are added in two parts. -/
def leastSplit : Nat :=
  4503599627370496

/-- An integer in two parts that are not rounded, of which the second one may be zero. -/
def parts (n : Int) : Int × Int :=
  if n.natAbs < leastSplit then (n, 0) else (n - n.tmod 16384, n.tmod 16384)

def addRounded (s : Sum) (n : Int) : Sum :=
  let (great, small) := parts n
  let s := s.addReal (.ofInt great)
  if small = 0 then s else s.addReal (.ofInt small)

/-- The sum as one that is rounded from now on. -/
def round (s : Sum) : Sum :=
  let (great, small) := parts s.exact
  { s with isExact := false, rounded := some (.ofInt great), lost := some (.ofInt small) }

def add (s : Sum) (n : Number) : Sum :=
  let s := { s with count := s.count + 1 }
  match n, s.isExact with
  | .integer n, true =>
    if (Text.toInt64? (s.exact + n)).isSome then { s with exact := s.exact + n }
    else { s.round with isTooGreat := true }.addRounded n
  | .integer n, false => s.addRounded n
  | .real r, true => s.round.addReal r
  | .real r, false => { s with isTooGreat := false }.addReal r

def takeAway (s : Sum) (n : Number) : Sum :=
  let s := { s with count := s.count - 1 }
  match n, s.isExact with
  | .integer n, true => { s with exact := s.exact - n }
  | .integer n, false =>
    if n = Int64.minValue.toInt then (s.addRounded Int64.maxValue.toInt).addRounded 1 else s.addRounded (-n)
  | .real r, _ => s.addReal r.neg

def ofNumbers (ns : List Number) : Sum :=
  ns.foldl add empty

def real? (s : Sum) : Option Real :=
  if s.isExact then some (.ofInt s.exact)
  else
    match s.lost with
    | some (.finite q) => plus s.rounded (Real.finite q)
    | _ => s.rounded

/-- The sum, null if nothing was added. There is no answer if it is an integer of more than 64 bits. -/
def value? (s : Sum) : Option Value :=
  if s.count = 0 then some .null
  else if s.isExact then some (.integer s.exact)
  else if s.isTooGreat then none
  else some (.ofReal? s.real?)

def total (s : Sum) : Value :=
  .ofReal? s.real?

def average (s : Sum) : Value :=
  if s.count = 0 then .null else .ofReal? (s.real?.bind fun r => r.div? (.ofInt s.count))

end Sum

def Aggregate.ofSum? : Aggregate → Option (Sum → Option Value)
  | sum => some Sum.value?
  | total => some fun s => some s.total
  | average => some fun s => some s.average
  | _ => none

/-- The value of a function over the rows of a group, from the values of its arguments on each. There is
none if the database gives up. -/
def Aggregate.apply (c : Collation) (f : Aggregate) (rows : List (List Value)) : Option Value :=
  let first := rows.map fun r => r.headD .null
  let sumOfAll := Sum.ofNumbers (first.filterMap Value.summand?)
  match f with
  | count => some (.integer (rows.filter fun r => r.isEmpty || r.head? != some .null).length)
  | sum => sumOfAll.value?
  | total => some sumOfAll.total
  | average => some sumOfAll.average
  | least => some (Value.extremeOf c .gt first)
  | greatest => some (Value.extremeOf c .lt first)
  | joined => some (Value.joinedTexts (rows.map fun r => (r.headD .null, r.getD 1 (.text ","))))
  | documentArray asBytes => DocumentRoutine.array.apply asBytes first
  | documentObject asBytes =>
    (rows.mapM fun r => Value.namedPart? (r.headD .null) (r.getD 1 .null)).bind fun parts =>
      Value.ofWrittenDocument asBytes ('\x7b' :: Document.separated parts ++ ['\x7d'])

end AuditSearch.Sql
