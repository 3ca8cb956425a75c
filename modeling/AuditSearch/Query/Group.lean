import AuditSearch.Query.Term

/-!
Terms gathered by field. A group keeps the plain and the negated values of one field apart; a value
written with both signs stays in both lists.
-/
namespace AuditSearch

structure Group where
  field : String
  included : List String
  excluded : List String
  deriving DecidableEq, Repr

namespace Group

def empty (field : String) : Group :=
  ⟨field, [], []⟩

/-- Adds a value at the end, unless the list holds it. -/
def addNew (value : String) (values : List String) : List String :=
  if value ∈ values then values else values ++ [value]

def push (g : Group) (value : String) (negated : Bool) : Group :=
  if negated then { g with excluded := addNew value g.excluded }
  else { g with included := addNew value g.included }

def isEmpty (g : Group) : Bool :=
  g.included.isEmpty && g.excluded.isEmpty

/-- Adds a term to the group of its field, which is made at the end if there is none. -/
def addTerm (t : Term) : List Group → List Group
  | [] => [(empty t.field).push t.value t.negated]
  | g :: gs => if g.field = t.field then g.push t.value t.negated :: gs else g :: addTerm t gs

/-- The groups of a list of terms, fields in the order in which they first appear. -/
def ofTerms (terms : List Term) : List Group :=
  terms.foldl (fun gs t => addTerm t gs) []

def find? (gs : List Group) (field : String) : Option Group :=
  gs.find? fun g => g.field == field

end Group

end AuditSearch
