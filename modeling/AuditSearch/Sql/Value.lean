import AuditSearch.Literal
import AuditSearch.Sql.Format.Number
import AuditSearch.Sql.Number
import AuditSearch.Text.Bytes
import AuditSearch.Text.Lower
import AuditSearch.Truth

/-!
Values that a clause computes with. Numbers come before texts and texts before bytes; texts go by
their bytes, and null is unlike every value.
-/
namespace AuditSearch.Sql

inductive Value where
  | null
  | integer (value : Int)
  | real (value : Real)
  | text (content : String)
  | blob (bytes : List UInt8)
  /-- A text whose bytes are not those of characters, which may be known to be a document. -/
  | broken (bytes : List UInt8) (isDocument : Bool)
  /-- A text that is known to be a document. Only functions of documents tell it from any other text. -/
  | document (content : String)
  deriving DecidableEq

/-- What a column or a conversion prefers its values to be. -/
inductive Affinity where
  | blob
  | text
  | numeric
  | integer
  | real
  deriving DecidableEq, Repr

/-- How texts are compared. -/
inductive Collation where
  | binary
  /-- Without regard to the case of ASCII letters. -/
  | noCase
  /-- Without regard to spaces at the end. -/
  | rightTrimmed
  deriving DecidableEq, Repr

inductive Comparison where
  | equal
  | notEqual
  | less
  | atMost
  | greater
  | atLeast
  /-- Equality that holds of two nulls, and is never unknown. -/
  | same
  | notSame
  deriving DecidableEq, Repr

def Comparison.truth (op : Comparison) (bothNull : Bool) (order : Option Ordering) : Truth :=
  match op with
  | equal => order.map (· == .eq)
  | notEqual => order.map (· != .eq)
  | less => order.map (· == .lt)
  | atMost => order.map (· != .gt)
  | greater => order.map (· == .gt)
  | atLeast => order.map (· != .lt)
  | same => some (bothNull || order == some .eq)
  | notSame => some !(bothNull || order == some .eq)

namespace Affinity

def isNumeric : Affinity → Bool
  | blob | text => false
  | numeric | integer | real => true

/-- What two sides are compared as, where `none` has no preference: as numbers if one of two
preferences is for numbers, else as they are; a single preference is followed. -/
def common : Option Affinity → Option Affinity → Affinity
  | some a, some b => if a.isNumeric || b.isNumeric then numeric else blob
  | some a, none | none, some a => a
  | none, none => blob

def mentions (word : String) (name : List Char) : Bool :=
  (List.range (name.length + 1)).any fun n => word.toList.isPrefixOf (name.drop n)

def ofTypeName (written : String) : Affinity :=
  let name := Text.asciiFold written.toList
  if mentions "int" name then integer
  else if mentions "char" name || mentions "clob" name || mentions "text" name then text
  else if mentions "blob" name then blob
  else if mentions "real" name || mentions "floa" name || mentions "doub" name then real
  else numeric

end Affinity

namespace Collation

def named? (written : String) : Option Collation :=
  match String.ofList (Text.asciiFold written.toList) with
  | "binary" => some binary
  | "nocase" => some noCase
  | "rtrim" => some rightTrimmed
  | _ => none

/-- The order of bytes one by one; what others go on behind comes first. -/
def orderBytes : List UInt8 → List UInt8 → Ordering
  | [], [] => .eq
  | [], _ :: _ => .lt
  | _ :: _, [] => .gt
  | a :: as, b :: bs => if a < b then .lt else if b < a then .gt else orderBytes as bs

/-- The byte of the small letter, for that of a capital ASCII letter. -/
def foldByte (b : UInt8) : UInt8 :=
  if 0x41 ≤ b ∧ b ≤ 0x5A then b + 0x20 else b

/-- The order of bytes without regard to case as far as both go, or up to a null character. -/
def orderFolded : List UInt8 → List UInt8 → Ordering
  | a :: as, b :: bs =>
    if a != 0 && foldByte a == foldByte b then orderFolded as bs else compare (foldByte a) (foldByte b)
  | _, _ => .eq

def withoutSpaces (bytes : List UInt8) : List UInt8 :=
  (bytes.reverse.dropWhile (· == 0x20)).reverse

def order (c : Collation) (a b : List UInt8) : Ordering :=
  match c with
  | binary => orderBytes a b
  | noCase => (orderFolded a b).then (compare a.length b.length)
  | rightTrimmed => orderBytes (withoutSpaces a) (withoutSpaces b)

end Collation

namespace Value

def ofLiteral : Literal → Value
  | .integer n => integer n.toInt
  | .text s => text s

def ofLiteral? : Option Literal → Value
  | none => null
  | some l => ofLiteral l

def ofNumber : Number → Value
  | .integer n => integer n
  | .real r => real r

/-- An integer if it has 64 bits, else the nearest number. -/
def ofInt (n : Int) : Value :=
  if (Text.toInt64? n).isSome then integer n else real (.ofInt n)

def ofReal? : Option Real → Value
  | none => null
  | some r => real r

def ofTruth : Truth → Value
  | none => null
  | some true => integer 1
  | some false => integer 0

/-- A value has this many bytes at most. -/
def maxSize : Nat :=
  1000000000

def ofTextBytes (bytes : List UInt8) : Value :=
  match Text.ofBytes? bytes with
  | some s => text s
  | none => broken bytes false

def ofDocumentBytes (bytes : List UInt8) : Value :=
  match Text.ofBytes? bytes with
  | some s => document s
  | none => broken bytes true

/-- The bytes of the value as text, none for null. -/
def textBytes? : Value → Option (List UInt8)
  | null => none
  | integer n => some (Text.bytesOf (Text.ofInt n))
  | real r => some (Text.bytesOf r.toText)
  | text s | document s => some (Text.bytesOf s)
  | blob bytes | broken bytes _ => some bytes

/-- The value as text, none for null. What is no character in it is replaced. -/
def text? : Value → Option String
  | null => none
  | integer n => some (Text.ofInt n)
  | real r => some r.toText
  | text s | document s => some s
  | blob bytes | broken bytes _ => some (Text.ofBytes bytes)

/-- The number at the start of a text, 0 if there is none. -/
def leadingNumber (s : String) : Number :=
  match numberPrefix? s.toList with
  | some (n, _) => n
  | none => .integer 0

def number? : Value → Option Number
  | null => none
  | integer n => some (.integer n)
  | real r => some (.real r)
  | text s | document s => some (leadingNumber s)
  | blob bytes | broken bytes _ => some (leadingNumber (Text.ofBytes bytes))

def unmarked : Value → Value
  | document s => text s
  | broken bytes _ => broken bytes false
  | v => v

def toNumeric : Value → Value
  | text s | document s => ((Sql.number? s).map ofNumber).getD (text s)
  | v => v

def toText : Value → Value
  | integer n => text (Text.ofInt n)
  | real r => text r.toText
  | v => v

/-- Whether a value counts as true. A text counts as the number at its start, or zero. -/
def truth (v : Value) : Truth :=
  v.number?.map fun
    | .integer n => n != 0
    | .real r => !r.isZero

/-- The order of two values, `none` if one is null. -/
def order? (c : Collation) (x y : Value) : Option Ordering :=
  match x, y with
  | null, _ | _, null => none
  | integer a, integer b => some (compare a b)
  | integer a, real b => some (Real.order (.finite a) b)
  | real a, integer b => some (Real.order a (.finite b))
  | real a, real b => some (Real.order a b)
  | blob a, blob b => some (Collation.orderBytes a b)
  | blob _, _ => some .gt
  | _, blob _ => some .lt
  | integer _, _ | real _, _ => some .lt
  | _, integer _ | _, real _ => some .gt
  | x, y => some (c.order (x.textBytes?.getD []) (y.textBytes?.getD []))

def orderNulls (c : Collation) (x y : Value) : Ordering :=
  match x, y with
  | null, null => .eq
  | null, _ => .lt
  | _, null => .gt
  | x, y => (order? c x y).getD .eq

def isText : Value → Bool
  | text _ | document _ | broken _ _ => true
  | _ => false

def adjust (a : Affinity) (x y : Value) : Value × Value :=
  match a with
  | .blob => (x, y)
  | .text => if x.isText || y.isText then (x.toText, y.toText) else (x, y)
  | .numeric | .integer | .real => (x.toNumeric, y.toNumeric)

def compareAs (op : Comparison) (c : Collation) (a : Affinity) (x y : Value) : Truth :=
  let (x, y) := adjust a x y
  op.truth (x == null && y == null) (order? c x y)

def Number.truncate : Number → Int
  | .integer n => n
  | .real r => r.truncate

/-- The integer at the start of a text, or the last one in its direction; 0 if there is none. -/
def leadingInteger (s : String) : Int :=
  let cs := s.toList.dropWhile isSpace
  let magnitude (cs : List Char) : Int := wholeNumber (cs.takeWhile Text.isDigit)
  match cs with
  | '-' :: ds => max (-magnitude ds) Int64.minValue.toInt
  | '+' :: ds => min (magnitude ds) Int64.maxValue.toInt
  | ds => min (magnitude ds) Int64.maxValue.toInt

def toInteger : Value → Int
  | null => 0
  | integer n => n
  | real r => r.truncate
  | text s | document s => leadingInteger s
  | blob bytes | broken bytes _ => leadingInteger (Text.ofBytes bytes)

/-- The value as a number that is no integer, 0 for null. -/
def toReal (v : Value) : Real :=
  match v.number? with
  | none => .zero
  | some (.integer n) => .ofInt n
  | some (.real r) => r

end Value

end AuditSearch.Sql
