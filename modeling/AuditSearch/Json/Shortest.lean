import AuditSearch.Json.Number

/-!
The written form of numbers that are no integers: the fewest digits that read back as the same
binary number, and of those the nearest to it.
-/
namespace AuditSearch

namespace Binary

/-- The numbers that read back as `b` lie between these two, which are counted in quarters of its last
bit. The next number below the least mantissa is only half as far away as the next one above. -/
def quarters (b : Binary) : Nat × Nat :=
  let least :=
    b.mantissa = Precision.double.minMantissa ∧ Precision.double.minExponent < b.exponent
  (4 * b.mantissa - (if least then 1 else 2), 4 * b.mantissa + 2)

/-- A quarter of the last bit of `b` in units of `10 ^ place`, as a fraction. -/
def quarterAt (b : Binary) (place : Int) : Nat × Nat :=
  (Nat.pow 10 (-place).toNat <<< (b.exponent - 2).toNat,
    Nat.pow 10 place.toNat <<< (2 - b.exponent).toNat)

/-- Whether `n * 10 ^ place` reads back as `b`. A number half way to the next one goes to the even
mantissa. -/
def readsBack (b : Binary) (place : Int) (n : Nat) : Bool :=
  let (num, den) := b.quarterAt place
  let (low, high) := b.quarters
  if b.mantissa % 2 = 0 then decide (low * num ≤ n * den) && decide (n * den ≤ high * num)
  else decide (low * num < n * den) && decide (n * den < high * num)

/-- A multiple of `10 ^ place` that reads back as `b`, the nearest to it if there are two. -/
def atPlace? (b : Binary) (place : Int) : Option Decimal :=
  let (num, den) := b.quarterAt place
  let below := 4 * b.mantissa * num / den
  ([roundHalfEven (4 * b.mantissa * num) den, below, below + 1].find? (b.readsBack place)).map
    fun n => ⟨n, place⟩

/-- A place above the first digit of `b`. -/
def topPlace (b : Binary) : Int :=
  let (num, den) := b.quarterAt 0
  ((Text.natDigits (4 * b.mantissa * num)).length : Int) - (Text.natDigits den).length + 1

/-- The shortest decimal number that reads back as `b`. It has 17 digits at most. -/
def shortest (b : Binary) : Decimal :=
  if b.mantissa = 0 then ⟨0, 0⟩
  else ((List.range 20).findSome? fun (i : Nat) => b.atPlace? (b.topPlace - i)).getD ⟨0, 0⟩

end Binary

namespace Decimal

/-- The digits with a point behind the first one, and the exponent with its sign. -/
def scientific (digits : List Char) (exponent : Int) : List Char :=
  digits.take 1 ++ (if digits.length = 1 then [] else '.' :: digits.drop 1) ++
    'e' :: (if exponent < 0 then '-' else '+') :: Text.natDigits exponent.natAbs

/-- The written form, which always has a point or an exponent. The point is put among the digits or up
to four zeros before them, and an integer part has 16 digits at most; all else has an exponent. -/
def written (d : Decimal) : List Char :=
  let digits := Text.natDigits d.mantissa
  let point : Int := digits.length + d.exponent
  if 0 ≤ d.exponent ∧ point ≤ 16 then
    digits ++ List.replicate d.exponent.toNat '0' ++ ['.', '0']
  else if 0 < point ∧ point ≤ 16 then
    digits.take point.toNat ++ '.' :: digits.drop point.toNat
  else if -5 < point ∧ point ≤ 0 then
    ['0', '.'] ++ List.replicate (-point).toNat '0' ++ digits
  else scientific digits (point - 1)

end Decimal

namespace Json

/-- The written form of a number that is no integer of 64 bits, from any other form of it. -/
def decimalText (s : String) : List Char :=
  match s.toList with
  | '-' :: cs => '-' :: (readDouble cs).shortest.written
  | cs => (readDouble cs).shortest.written

end Json

end AuditSearch
