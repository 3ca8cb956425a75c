/-!
Binary numbers with mantissas of limited size: the nearest one to a fraction, and products and
quotients that are rounded to the nearest.
-/
namespace AuditSearch

/-- A format of binary numbers. -/
structure Precision where
  /-- Mantissas have this many bits at most. -/
  bits : Nat
  minExponent : Int
  deriving DecidableEq, Repr

namespace Precision

/-- Numbers of 64 bits altogether. -/
def double : Precision :=
  ⟨53, -1074⟩

/-- Numbers of 80 bits altogether. -/
def extended : Precision :=
  ⟨64, -16445⟩

/-- The least mantissa of full size. Only numbers with the least exponent have a smaller one. -/
def minMantissa (p : Precision) : Nat :=
  1 <<< (p.bits - 1)

end Precision

/-- The number `mantissa * 2 ^ exponent`. -/
structure Binary where
  mantissa : Nat
  exponent : Int
  deriving DecidableEq, Repr

namespace Binary

/-- The quotient of two numbers rounded to the nearest, a half to the even neighbour. -/
def roundHalfEven (a b : Nat) : Nat :=
  let q := a / b
  let r := a % b
  if 2 * r < b then q else if b < 2 * r then q + 1 else q + q % 2

/-- A fraction with the same value over `2 ^ k` as the given one over 1. -/
def scaled (num den : Nat) (k : Int) : Nat × Nat :=
  if 0 ≤ k then (num, den <<< k.toNat) else (num <<< (-k).toNat, den)

/-- The exponent of the nearest number to a positive fraction. -/
def lastBit (p : Precision) (num den : Nat) : Int :=
  let k : Int := (num.log2 : Int) - den.log2 - (p.bits - 1 : Nat)
  let (a, b) := scaled num den k
  max (if a < b * p.minMantissa then k - 1 else k) p.minExponent

/-- The nearest number to a fraction. There is no greatest one. -/
def nearest (p : Precision) (num den : Nat) : Binary :=
  let k := lastBit p num den
  let (a, b) := scaled num den k
  let n := roundHalfEven a b
  if n = 2 * p.minMantissa then ⟨p.minMantissa, k + 1⟩ else ⟨n, k⟩

/-- The nearest number to a fraction over `2 ^ -k`. -/
def nearestScaled (p : Precision) (num den : Nat) (k : Int) : Binary :=
  let (a, b) := scaled num den (-k)
  nearest p a b

def mul (p : Precision) (a b : Binary) : Binary :=
  nearestScaled p (a.mantissa * b.mantissa) 1 (a.exponent + b.exponent)

/-- The quotient by a number other than zero, rounded. -/
def div (p : Precision) (a b : Binary) : Binary :=
  nearestScaled p a.mantissa b.mantissa (a.exponent - b.exponent)

def powerOfTen (p : Precision) (n : Nat) : Binary :=
  nearest p (Nat.pow 10 n) 1

/-- The nearest number to a power of one tenth. -/
def powerOfTenth (p : Precision) (n : Nat) : Binary :=
  nearest p 1 (Nat.pow 10 n)

/-- The same number with the mantissa of another format. -/
def round (p : Precision) (b : Binary) : Binary :=
  nearestScaled p b.mantissa 1 b.exponent

def toRat (b : Binary) : Rat :=
  if 0 ≤ b.exponent then ((b.mantissa <<< b.exponent.toNat : Nat) : Rat)
  else (b.mantissa : Rat) / (1 <<< (-b.exponent).toNat : Nat)

end Binary

end AuditSearch
