import AuditSearch.Ascending
import AuditSearch.Json.Value

/-!
Coding of values as JSON. Decoding is strict about types and ranges, ignores members that a record
does not have, and refuses a record with one of its members twice.
-/
namespace AuditSearch

/-- How a type is kept in a document. -/
class Codec (α : Type) where
  encode : α → Json
  decode? : Json → Option α

export Codec (encode decode?)

namespace Json

/-- The integer of a number in a range, both ends included. -/
def integerIn? (lo hi : Int) : Json → Option Int
  | integer n => if lo ≤ n ∧ n ≤ hi then some n else none
  | _ => none

instance : Codec Int64 where
  encode n := integer n.toInt
  decode? j := (integerIn? Int64.minValue.toInt Int64.maxValue.toInt j).map Int64.ofInt

instance : Codec Int32 where
  encode n := integer n.toInt
  decode? j := (integerIn? Int32.minValue.toInt Int32.maxValue.toInt j).map Int32.ofInt

instance : Codec UInt32 where
  encode n := integer n.toNat
  decode? j := (integerIn? 0 (UInt32.size - 1 : Nat) j).map fun n => UInt32.ofNat n.toNat

instance : Codec Bool where
  encode := bool
  decode?
    | bool b => some b
    | _ => none

instance : Codec String where
  encode := ofString
  decode?
    | text s => s
    | _ => none

instance {α : Type} [Codec α] : Codec (Option α) where
  encode
    | some a => encode a
    | none => null
  decode?
    | null => some none
    | j => (decode? j).map some

instance {α : Type} [Codec α] : Codec (List α) where
  encode items := array (items.map encode)
  decode?
    | array items => items.mapM decode?
    | _ => none

def decodeEntry? {α : Type} [Codec α] (m : Option String × Json) : Option (String × α) := do
  let key ← m.1
  let value ← decode? m.2
  some (key, value)

instance {α : Type} [Codec α] : Codec (Dictionary α) where
  encode d := object (d.entries.map fun e => member e.1 (encode e.2))
  decode?
    | object members => (members.mapM decodeEntry?).map Dictionary.ofList
    | _ => none

/-- The case of this name, written as a text or as the only key of an object with the value null. -/
def choice? {α : Type} (cases : List (String × α)) : Json → Option α
  | text (some name) => cases.lookup name
  | object [(some name, null)] => cases.lookup name
  | _ => none

/-- The value of a key among members, `some none` if it is missing and `none` if it is repeated. -/
def memberOnce? (members : List (Option String × Json)) (key : String) : Option (Option Json) :=
  match members.filter fun m => m.1 == some key with
  | [] => some none
  | [m] => some (some m.2)
  | _ => none

/-- The values of a record with these member names, `none` at those that are missing. A record is
written as an object, or as an array of all values in order, which may lack the last `optional`. -/
def record? (names : List String) (optional : Nat) : Json → Option (List (Option Json))
  | object members =>
    if members.all fun m => m.1.isSome then names.mapM (memberOnce? members) else none
  | array items =>
    if names.length ≤ items.length + optional ∧ items.length ≤ names.length then
      some (items.map some ++ List.replicate (names.length - items.length) none)
    else none
  | _ => none

/-- A value that must be there. -/
def required? {α : Type} [Codec α] (j : Option Json) : Option α :=
  j.bind decode?

/-- A value that may be missing, which is like null. -/
def optional? {α : Type} [Codec α] : Option Json → Option (Option α)
  | none => some none
  | some j => decode? j

/-- A value with a default for when it is missing. -/
def defaulted? {α : Type} [Codec α] (default : α) : Option Json → Option α
  | none => some default
  | some j => decode? j

end Json

end AuditSearch
