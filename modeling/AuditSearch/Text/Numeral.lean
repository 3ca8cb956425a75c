/-!
Decimal numerals. `int64?` reads a 64-bit integer from all of a text, `ofInt` writes one.
-/
namespace AuditSearch.Text

def isDigit (c : Char) : Bool :=
  decide ('0' ≤ c) && decide (c ≤ '9')

/-- The number that a non-empty run of ASCII digits stands for; leading zeros do not matter. -/
def nat? (cs : List Char) : Option Nat :=
  if !cs.isEmpty && cs.all isDigit then some (Nat.ofDigitChars 10 cs 0) else none

/-- An optional sign before a run of digits. -/
def int? : List Char → Option Int
  | '-' :: cs => (nat? cs).map fun n => -(n : Int)
  | '+' :: cs => (nat? cs).map fun n => (n : Int)
  | cs => (nat? cs).map fun n => (n : Int)

/-- The 64-bit integer of this value, if there is one. -/
def toInt64? (i : Int) : Option Int64 :=
  if Int64.minValue.toInt ≤ i ∧ i ≤ Int64.maxValue.toInt then some (Int64.ofInt i) else none

/-- Reads a signed 64-bit integer; blanks are not skipped. -/
def int64? (s : String) : Option Int64 :=
  (int? s.toList).bind toInt64?

def natDigits (n : Nat) : List Char :=
  Nat.toDigits 10 n

/-- The shortest decimal form: a minus sign if negative, no leading zeros. -/
def ofInt (i : Int) : String :=
  String.ofList (if i < 0 then '-' :: natDigits i.natAbs else natDigits i.natAbs)

def hexValue? (c : Char) : Option Nat :=
  if '0' ≤ c ∧ c ≤ '9' then some (c.toNat - '0'.toNat)
  else if 'a' ≤ c ∧ c ≤ 'f' then some (c.toNat - 'a'.toNat + 10)
  else if 'A' ≤ c ∧ c ≤ 'F' then some (c.toNat - 'A'.toNat + 10)
  else none

def twoDigits (n : Nat) : String :=
  String.ofList [Char.ofNat ('0'.toNat + n / 10 % 10), Char.ofNat ('0'.toNat + n % 10)]

end AuditSearch.Text
