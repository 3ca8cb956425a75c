import AuditSearch.Sql.Real
import AuditSearch.Text.Decimal

/-!
Numbers in texts, as a database reads them. An integer of 64 bits stays exact. Of any other number
the first 19 digits or so count; they are scaled by powers of ten in extended precision, and the
result is rounded to 53 bits.
-/
namespace AuditSearch.Sql

inductive Number where
  | integer (value : Int)
  | real (value : Real)
  deriving DecidableEq

def isSpace (c : Char) : Bool :=
  c == ' ' || (decide (0x09 ≤ c.toNat) && decide (c.toNat ≤ 0x0D))

/-- A mantissa from here on takes no further digit. -/
def fullMantissa : Nat :=
  (UInt64.size - 10) / 10

/-- Appends digits to a mantissa until it is full, and leaves the others. -/
def fillMantissa : Nat → List Char → Nat × List Char
  | m, [] => (m, [])
  | m, c :: cs =>
    if m < fullMantissa then fillMantissa (10 * m + (c.toNat - '0'.toNat)) cs else (m, c :: cs)

/-- The number that the digits of an exponent stand for. One of five digits is not added to. -/
def exponentNumber (ds : List Char) : Nat :=
  ds.foldl (fun e d => if e < 10000 then 10 * e + (d.toNat - '0'.toNat) else 10000) 0

/-- The digits that count. Whole digits behind them still raise the exponent. -/
def significant (p : Decimal.Parts) : Decimal :=
  let (m, moreWhole) := fillMantissa 0 p.whole
  let (m, moreFraction) := fillMantissa m p.fraction
  let taken := p.fraction.length - moreFraction.length
  ⟨m, p.exponentValue exponentNumber + moreWhole.length - taken⟩

/-- Moves powers of ten from the exponent into the mantissa, while there is room for them. -/
def raiseMantissa : Nat → Nat → Nat × Nat
  | m, 0 => (m, 0)
  | m, e + 1 => if m < (UInt64.size - 1) / 10 then raiseMantissa (10 * m) e else (m, e + 1)

/-- Moves powers of ten from the mantissa into the negative exponent, while it has them. -/
def lowerMantissa : Nat → Nat → Nat × Nat
  | m, 0 => (m, 0)
  | m, e + 1 => if m % 10 = 0 then lowerMantissa (m / 10) e else (m, e + 1)

def timesRepeated (b factor : Binary) (times : Nat) : Binary :=
  (List.replicate times factor).foldl (Binary.mul .extended) b

/-- A mantissa by the power of ten that `power` gives, which is put together from its digits. -/
def scaleByTens (power : Nat → Binary) (m e : Nat) : Binary :=
  if e = 0 then .nearest .double m 1
  else
    let b := Binary.nearest .extended m 1
    let b := timesRepeated b (power 100) (e / 100)
    let b := timesRepeated b (power 10) (e % 100 / 10)
    timesRepeated b (power 1) (e % 10)

/-- The magnitude of a decimal number, not yet rounded to 53 bits. -/
def magnitude (d : Decimal) : Binary :=
  if d.mantissa = 0 then ⟨0, 0⟩
  else if 0 ≤ d.exponent then
    let (m, e) := raiseMantissa d.mantissa d.exponent.toNat
    scaleByTens (Binary.powerOfTen .extended) m e
  else
    let (m, e) := lowerMantissa d.mantissa (-d.exponent).toNat
    scaleByTens (Binary.powerOfTenth .extended) m e

def Real.ofParts (negative : Bool) (p : Decimal.Parts) : Real :=
  let b := magnitude (significant p)
  if 1024 < b.exponent || maxFinite < b.toRat then .infinite negative else ofMagnitude negative (b.round .double)

/-- The number that digits stand for. Any with more digits than integers of 64 bits have counts as the same one,
which is greater than they are. -/
def wholeNumber (ds : List Char) : Nat :=
  let ds := ds.dropWhile (· == '0')
  if (ds.drop 20).isEmpty then Nat.ofDigitChars 10 ds 0 else Nat.pow 10 20

def unsignedPrefix? (negative : Bool) (cs : List Char) : Option (Number × List Char) :=
  let (p, rest) := Decimal.parts cs
  let n : Int := wholeNumber p.whole
  let n := if negative then -n else n
  if !p.hasDigits then none
  else if p.isWhole && (Text.toInt64? n).isSome then some (.integer n, rest)
  else some (.real (.ofParts negative p), rest)

def numberPrefix? (cs : List Char) : Option (Number × List Char) :=
  match cs.dropWhile isSpace with
  | '-' :: cs => unsignedPrefix? true cs
  | '+' :: cs => unsignedPrefix? false cs
  | cs => unsignedPrefix? false cs

/-- The number that a whole text is, spaces around it aside. -/
def number? (s : String) : Option Number :=
  match numberPrefix? s.toList with
  | some (n, rest) => if rest.all isSpace then some n else none
  | none => none

end AuditSearch.Sql
