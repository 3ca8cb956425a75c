import AuditSearch.Text.Blank
import AuditSearch.Text.Numeral

/-!
Literals, the scalar values that event columns hold and are compared with. A text equals an integer
loosely when the trimmed text reads as that integer.
-/
namespace AuditSearch

inductive Literal where
  | integer (value : Int64)
  | text (content : String)
  deriving DecidableEq, Repr

namespace Literal

/-- The integer that a text reads as, blanks around it aside. -/
def integerOf? (s : String) : Option Int64 :=
  Text.int64? (Text.trim s)

def asInteger? : Literal → Option Int64
  | integer n => some n
  | text s => integerOf? s

def looselyEquals : Literal → Literal → Bool
  | integer a, integer b => a == b
  | text a, text b => a == b
  | integer n, text s | text s, integer n => integerOf? s == some n

/-- Integers come before texts; integers go by value and texts by code points. -/
def order : Literal → Literal → Ordering
  | integer a, integer b => compare a b
  | integer _, text _ => .lt
  | text _, integer _ => .gt
  | text a, text b => compare a b

/-- The written form in a clause: digits, or the text in quotes with each quote inside doubled. -/
def quoted : Literal → String
  | integer n => Text.ofInt n.toInt
  | text s => String.ofList ('\'' :: s.toList.flatMap (fun c => if c = '\'' then [c, c] else [c]) ++ ['\''])

end Literal

end AuditSearch
