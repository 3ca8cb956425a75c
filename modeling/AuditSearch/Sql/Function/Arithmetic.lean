import AuditSearch.Sql.Value

/-!
Arithmetic on values. Integers of 64 bits stay exact; where a result has more bits, and where a
side is no integer, numbers are rounded. What has no number, as a quotient by zero, is null.
-/
namespace AuditSearch.Sql.Value

/-- A result for two numbers: exact for two integers if `exact` has one, else rounded. -/
def arithmetic (exact : Int → Int → Option Value) (rounded : Real → Real → Option Real)
    (x y : Value) : Value :=
  match x.number?, y.number? with
  | none, _ | _, none => null
  | some (.integer a), some (.integer b) =>
    (exact a b).getD (ofReal? (rounded (.ofInt a) (.ofInt b)))
  | some _, some _ => ofReal? (rounded x.toReal y.toReal)

def word? (n : Int) : Option Value :=
  (Text.toInt64? n).map fun _ => integer n

def add (x y : Value) : Value :=
  arithmetic (fun a b => word? (a + b)) Real.add? x y

def subtract (x y : Value) : Value :=
  arithmetic (fun a b => word? (a - b)) Real.sub? x y

def multiply (x y : Value) : Value :=
  arithmetic (fun a b => word? (a * b)) Real.mul? x y

def divide (x y : Value) : Value :=
  arithmetic (fun a b => if b = 0 then some null else word? (a.tdiv b)) Real.div? x y

/-- The remainder of the quotient of two integers, for which the digits behind a point are dropped. -/
def remainder (x y : Value) : Value :=
  let rest := x.toInteger.tmod y.toInteger
  arithmetic (fun _ b => some (if b = 0 then null else integer rest))
    (fun _ _ => if y.toInteger = 0 then none else some (.ofInt rest)) x y

def negate (x : Value) : Value :=
  subtract (integer 0) x

def onIntegers (f : Int → Int → Int) (x y : Value) : Value :=
  match x, y with
  | null, _ | _, null => null
  | _, _ => integer (f x.toInteger y.toInteger)

def bitAnd (x y : Value) : Value :=
  onIntegers (fun a b => (Int64.ofInt a &&& Int64.ofInt b).toInt) x y

def bitOr (x y : Value) : Value :=
  onIntegers (fun a b => (Int64.ofInt a ||| Int64.ofInt b).toInt) x y

def complement (x : Value) : Value :=
  onIntegers (fun a _ => -a - 1) x (integer 0)

/-- The low 64 bits of an integer that is moved to the left, or to the right by a negative number. -/
def shifted (n by_ : Int) : Int :=
  if 64 ≤ by_ then 0
  else if 0 ≤ by_ then (Int64.ofInt (n * Nat.pow 2 by_.toNat)).toInt
  else n >>> by_.natAbs

def shiftLeft (x y : Value) : Value :=
  onIntegers shifted x y

def shiftRight (x y : Value) : Value :=
  onIntegers (fun a b => shifted a (-b)) x y

/-- The magnitude; a text counts as the number at its start. The least integer has none. -/
def abs? : Value → Option Value
  | null => some null
  | integer n => word? n.natAbs
  | v => some (real (if v.toReal.isNegative then v.toReal.neg else v.toReal))

def sign (v : Value) : Value :=
  match v.toNumeric with
  | integer n => integer n.sign
  | real r => integer (if r.isZero then 0 else if r.isNegative then -1 else 1)
  | _ => null

/-- From this magnitude on no number has digits behind its point. -/
def maxRounded : Rat :=
  4503599627370496

/-- A number as the nearest integer: half of one is added, which is rounded, and what is behind the point is
dropped. -/
def roundedWhole (r : Real) : Real :=
  .ofInt ((r.add? (if r.isNegative then Real.half.neg else .half)).getD .zero).truncate

def roundedTo (places : Nat) (r : Real) : Real :=
  let written := RealForm.fixed.write { Style.plain with isWide := true, precision := some places } false r
  match numberPrefix? written with
  | some (n, _) => (ofNumber n).toReal
  | none => .zero

/-- A number rounded to some places; there are 30 at most. -/
def round (x places : Value) : Value :=
  match x, places with
  | null, _ | _, null => null
  | x, places =>
    match x.toReal with
    | .finite q =>
      let n := (Int32.ofInt places.toInteger).toInt
      if q < -maxRounded ∨ maxRounded < q then real (.finite q)
      else if n ≤ 0 then real (roundedWhole (.finite q))
      else real (roundedTo (min n.toNat 30) (.finite q))
    | r => real r

/-- Whether a number is an integer that counts as one: those of 52 bits with their sign do. -/
def isSmallInteger (q : Rat) : Bool :=
  q.den == 1 && decide (-(1 <<< 51) ≤ q.num) && decide (q.num < 1 <<< 51)

def cast (type : Affinity) (v : Value) : Value :=
  match v, type with
  | null, _ => null
  | blob bytes, .blob => blob bytes
  | v, .blob => blob (v.textBytes?.getD [])
  | document s, .text => document s
  | v, .text => ofTextBytes (v.textBytes?.getD [])
  | v, .integer => integer v.toInteger
  | v, .real => real v.toReal
  | integer n, .numeric => integer n
  | real r, .numeric => real r
  | v, .numeric =>
    match v.toReal with
    | .finite q =>
      if isSmallInteger q then integer q.num
      else (v.number?.map ofNumber).getD null
    | r => real r

end AuditSearch.Sql.Value
