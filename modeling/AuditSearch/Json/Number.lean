import AuditSearch.Binary
import AuditSearch.Text.Decimal

/-!
Numbers of a JSON document that are no integers of 64 bits. Of the digits only those count that fit
into 64 bits, and the power of ten is put on them by one or two roundings.
-/
namespace AuditSearch.Json

/-- Appends digits to a mantissa of 64 bits while they fit, and leaves the others. -/
def takeDigits : Nat → List Char → Nat × List Char
  | m, [] => (m, [])
  | m, c :: cs =>
    let n := 10 * m + (c.toNat - '0'.toNat)
    if n < UInt64.size then takeDigits n cs else (m, c :: cs)

/-- The digits that count. Whole digits behind them still raise the exponent. -/
def significant (p : Decimal.Parts) : Decimal :=
  let (m, moreWhole) := takeDigits 0 p.whole
  let (m, moreFraction) := takeDigits m p.fraction
  let taken := p.fraction.length - moreFraction.length
  ⟨m, p.exponentValue (Nat.ofDigitChars 10 · 0) + moreWhole.length - taken⟩

/-- Powers of ten up to this one are known. A number has no greater power. -/
def maxPower : Nat :=
  308

/-- The binary number that a decimal number is read as. -/
def toDouble (d : Decimal) : Binary :=
  let m := Binary.nearest .double d.mantissa 1
  let power (n : Nat) := Binary.powerOfTen .double n
  let n := d.exponent.natAbs
  if 0 ≤ d.exponent then m.mul .double (power (min n maxPower))
  else if n ≤ maxPower then m.div .double (power n)
  else (m.div .double (power maxPower)).div .double (power (min (n - maxPower) maxPower))

/-- The number that a text without sign stands for. -/
def readDouble (cs : List Char) : Binary :=
  toDouble (significant (Decimal.parts cs).1)

end AuditSearch.Json
