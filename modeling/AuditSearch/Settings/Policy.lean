/-!
What a search does with terms that it cannot use.
-/
namespace AuditSearch

inductive Treatment where
  /-- The term is dropped and the rest of the search counts. -/
  | skip
  /-- The whole search fails. -/
  | fail
  deriving DecidableEq, Repr

def Treatment.name : Treatment → String
  | skip => "skip"
  | fail => "fail"

structure Policy where
  unknownFields : Treatment
  invalidValues : Treatment
  deriving DecidableEq, Repr

namespace Policy

/-- Unknown fields are dropped, and an invalid date fails the search. This is the default. -/
def legacy : Policy :=
  ⟨.skip, .fail⟩

def strict : Policy :=
  ⟨.fail, .fail⟩

def lenient : Policy :=
  ⟨.skip, .skip⟩

end Policy

end AuditSearch
