/-!
JSON values as they stand in a document: members in order, repeats of a key included.
-/
namespace AuditSearch

inductive Json where
  | null
  | bool (value : Bool)
  /-- A number of 64 bits, with or without a sign, written without fraction and exponent, other than a
  negative zero. -/
  | integer (value : Int)
  /-- Any other number, as it is written. -/
  | decimal (written : String)
  /-- A text, or `none` if its escapes hold one half of a surrogate pair alone. -/
  | text (content : Option String)
  | array (items : List Json)
  | object (members : List (Option String × Json))
  deriving Inhabited

def Json.member (key : String) (value : Json) : Option String × Json :=
  (some key, value)

def Json.ofString (s : String) : Json :=
  .text (some s)

end AuditSearch
