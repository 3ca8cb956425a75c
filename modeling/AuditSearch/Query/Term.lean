import AuditSearch.Text.Blank

/-!
The terms of a search string. An atom is a run without blanks; it is a term if something other than
blanks stands behind its first colon. A leading dash negates a term and is not part of its field.
-/
namespace AuditSearch

structure Term where
  field : String
  negated : Bool
  value : String
  deriving DecidableEq, Repr

namespace Term

/-- The text before and after the first colon. -/
def splitColon? : List Char → Option (List Char × List Char)
  | [] => none
  | c :: cs =>
    if c = ':' then some ([], cs)
    else (splitColon? cs).map fun (key, value) => (c :: key, value)

/-- The field and sign that stand before a colon. -/
def signedField : List Char → String × Bool
  | '-' :: field => (String.ofList field, true)
  | field => (String.ofList field, false)

def parse? (atom : String) : Option Term := do
  let (key, rest) ← splitColon? atom.toList
  let value := Text.trim (String.ofList rest)
  if value.isEmpty then none
  else
    let (field, negated) := signedField key
    some ⟨field, negated, value⟩

/-- The terms of a search string, in order. Atoms that are no terms are left out. -/
def ofSearch (raw : String) : List Term :=
  (Text.words raw).filterMap parse?

end Term

end AuditSearch
