import AuditSearch.Binary
import AuditSearch.Text.Numeral

/-!
Numbers that are no integers, as a database computes with them: every result is rounded to a mantissa of
53 bits.
-/
namespace AuditSearch.Sql

/-- A fraction with a mantissa of 53 bits, or a number that is greater than all of them. -/
inductive Real where
  | finite (value : Rat)
  | infinite (negative : Bool)
  deriving DecidableEq

namespace Real

def maxFinite : Rat :=
  (Binary.mk ((1 <<< 53) - 1) 971).toRat

def ofMagnitude (negative : Bool) (b : Binary) : Real :=
  let q := b.toRat
  if maxFinite < q then infinite negative else finite (if negative then -q else q)

def ofRat (q : Rat) : Real :=
  ofMagnitude (decide (q < 0)) (.nearest .double q.num.natAbs q.den)

def ofInt (n : Int) : Real :=
  ofRat n

def zero : Real :=
  finite 0

def isZero (r : Real) : Bool :=
  r == zero

def isNegative : Real → Bool
  | finite q => decide (q < 0)
  | infinite negative => negative

def order : Real → Real → Ordering
  | finite a, finite b => if a < b then .lt else if b < a then .gt else .eq
  | infinite true, infinite true | infinite false, infinite false => .eq
  | infinite true, _ | _, infinite false => .lt
  | infinite false, _ | _, infinite true => .gt

def neg : Real → Real
  | finite q => finite (-q)
  | infinite negative => infinite (!negative)

def abs (r : Real) : Real :=
  if r.isNegative then r.neg else r

/-- The sum, `none` if it has no value. -/
def add? : Real → Real → Option Real
  | finite a, finite b => some (ofRat (a + b))
  | infinite a, infinite b => if a = b then some (infinite a) else none
  | infinite a, finite _ | finite _, infinite a => some (infinite a)

def sub? (a b : Real) : Option Real :=
  a.add? b.neg

def mul? : Real → Real → Option Real
  | finite a, finite b => some (ofRat (a * b))
  | a, b => if a.isZero || b.isZero then none else some (infinite (a.isNegative != b.isNegative))

/-- The quotient, `none` if it has no value. Nothing is divided by zero. -/
def div? : Real → Real → Option Real
  | finite a, finite b => if b = 0 then none else some (ofRat (a / b))
  | infinite a, finite b => if b = 0 then none else some (infinite (a != decide (b < 0)))
  | finite _, infinite _ => some zero
  | infinite _, infinite _ => none

/-- The product with one number and the sum with another, each rounded; zero if there is none. -/
def timesPlus (a b c : Real) : Real :=
  ((a.mul? b).bind fun p => p.add? c).getD zero

def half : Real :=
  finite (1 / 2)

/-- Integers up to this magnitude are among the fractions, with their neighbours. -/
def maxExact : Rat :=
  9223372036854774784

/-- The integer of 64 bits without the digits behind the point, or the last one in this direction. -/
def truncate : Real → Int
  | finite q =>
    if q < -maxExact then Int64.minValue.toInt
    else if maxExact < q then Int64.maxValue.toInt
    else q.num.tdiv q.den
  | infinite true => Int64.minValue.toInt
  | infinite false => Int64.maxValue.toInt

end Real

end AuditSearch.Sql
