import AuditSearch.Text.Numeral

/-!
Decimal numbers with a point or an exponent, and their written forms taken apart.
-/
namespace AuditSearch

/-- The number `mantissa * 10 ^ exponent`. -/
structure Decimal where
  mantissa : Nat
  exponent : Int
  deriving DecidableEq, Repr

namespace Decimal

/-- The parts of a written number without sign. -/
structure Parts where
  whole : List Char
  hasPoint : Bool
  fraction : List Char
  /-- Whether the exponent is negative, and its digits. -/
  exponent : Option (Bool × List Char)
  deriving DecidableEq, Repr

/-- The digits behind a point, and whether there is a point. -/
def fractionOf : List Char → Bool × List Char × List Char
  | '.' :: cs => (true, cs.span Text.isDigit)
  | cs => (false, [], cs)

def exponentOf (cs : List Char) : Option (Bool × List Char) × List Char :=
  match cs with
  | [] => (none, [])
  | e :: rest =>
    let (negative, afterSign) :=
      match rest with
      | '-' :: r => (true, r)
      | '+' :: r => (false, r)
      | r => (false, r)
    let (ds, behind) := afterSign.span Text.isDigit
    if (e = 'e' ∨ e = 'E') ∧ !ds.isEmpty then (some (negative, ds), behind) else (none, cs)

/-- The number at the start of a text, and what stands behind it. There may be no digits. -/
def parts (cs : List Char) : Parts × List Char :=
  let (whole, cs) := cs.span Text.isDigit
  let (hasPoint, fraction, cs) := fractionOf cs
  let (exponent, rest) := exponentOf cs
  (⟨whole, hasPoint, fraction, exponent⟩, rest)

namespace Parts

def hasDigits (p : Parts) : Bool :=
  !(p.whole.isEmpty && p.fraction.isEmpty)

/-- Whether the number is written without point and exponent. -/
def isWhole (p : Parts) : Bool :=
  !p.hasPoint && p.exponent.isNone

/-- The exponent as a number, 0 if there is none, where `value` reads its digits. -/
def exponentValue (p : Parts) (value : List Char → Nat) : Int :=
  match p.exponent with
  | none => 0
  | some (true, ds) => -(value ds : Int)
  | some (false, ds) => value ds

end Parts

end Decimal

end AuditSearch
