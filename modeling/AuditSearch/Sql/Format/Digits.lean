import AuditSearch.Sql.Real

/-!
Decimal digits of numbers. A number is scaled by powers of ten in extended precision until it has 18 or 19
digits in front of its point; what is behind the point is dropped, and the digits are rounded to as many as
are asked for.
-/
namespace AuditSearch.Sql

/-- The number `0.digits * 10 ^ point`. -/
structure Digits where
  digits : List Char
  point : Int
  deriving DecidableEq, Repr

namespace Digits

/-- A scaled number, and the power of ten that it was divided by. -/
structure Scaled where
  value : Binary
  power : Int

/-- Multiplies by a factor while the number is not on its side of a bound; `fuel` bounds the steps. -/
def Scaled.approach (isDone : Rat → Bool) (factor : Binary) (power : Int) : Nat → Scaled → Scaled
  | 0, s => s
  | fuel + 1, s =>
    if isDone s.value.toRat then s
    else approach isDone factor power fuel ⟨.mul .extended s.value factor, s.power + power⟩

def tens (n : Nat) : Rat :=
  (Binary.powerOfTen .extended n).toRat

def Scaled.lower (s : Scaled) : Scaled :=
  let step (bound n : Nat) := approach (fun q => decide (q < tens bound)) (.powerOfTenth .extended n) n 64
  step 19 1 (step 29 10 (step 119 100 s))

def Scaled.raise (s : Scaled) : Scaled :=
  let step (bound : Rat) (n : Nat) := approach (fun q => decide (bound ≤ q)) (.powerOfTen .extended n) (-n) 64
  step (tens 17) 1 (step (tens 7) 10 (step (Binary.powerOfTenth .extended 97).toRat 100 s))

def ofRat (q : Rat) : Digits :=
  let s : Scaled := ⟨.nearest .double q.num.natAbs q.den, 0⟩
  let s := if tens 19 ≤ q then s.lower else s.raise
  let ds := Text.natDigits s.value.toRat.floor.toNat
  ⟨ds, ds.length + s.power⟩

/-- Adds one to the last of some digits, and whether all of them were nines. -/
def increment : List Char → List Char × Bool
  | [] => ([], true)
  | c :: cs =>
    match increment cs with
    | (cs, false) => (c :: cs, false)
    | (cs, true) => if c = '9' then ('0' :: cs, true) else (Char.ofNat (c.toNat + 1) :: cs, false)

/-- So many digits from the start, rounded by the one behind them. -/
def keep (d : Digits) (n : Nat) : Digits :=
  let kept := d.digits.take n
  match d.digits[n]? with
  | some c =>
    if '5' ≤ c then
      match increment kept with
      | (ds, true) => ⟨'1' :: ds, d.point + 1⟩
      | (ds, false) => ⟨ds, d.point⟩
    else ⟨kept, d.point⟩
  | none => ⟨kept, d.point⟩

def trim (d : Digits) : Digits :=
  { d with digits := (d.digits.reverse.dropWhile (· == '0')).reverse }

/-- How many digits are asked for. -/
inductive Count where
  | significant (n : Nat)
  | behindPoint (n : Nat)
  deriving DecidableEq, Repr

def rounded (count : Count) (most : Nat) (d : Digits) : Digits :=
  let (n, d) : Int × Digits :=
    match count with
    | .significant n => (n, d)
    | .behindPoint places =>
      let n := d.point + places
      if n = 0 ∧ (d.digits.head?.any fun c => decide ('5' ≤ c)) then (1, ⟨'0' :: d.digits, d.point + 1⟩)
      else (n, d)
  (if 0 < n ∧ (n < d.digits.length ∨ most < d.digits.length) then d.keep (min n.toNat most) else d).trim

/-- The digits of a fraction without its sign; zero has one. -/
def ofMagnitude (count : Count) (most : Nat) (q : Rat) : Digits :=
  if q = 0 then ⟨['0'], 1⟩ else (ofRat (if q < 0 then -q else q)).rounded count most

end Digits

end AuditSearch.Sql
