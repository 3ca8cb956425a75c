import AuditSearch.Condition.Basic
import AuditSearch.Lookup
import AuditSearch.Query.Group

/-!
Sets of event ids that metadata terms ask for or rule out. The sets of all metadata fields of a
search are united before they are tested.
-/
namespace AuditSearch

structure IdSets where
  /-- `none` as long as no included value was searched, which is no constraint. -/
  included : Option IdSet
  excluded : IdSet
  deriving DecidableEq

namespace IdSets

def empty : IdSets :=
  ⟨none, .empty⟩

def isEmpty (s : IdSets) : Bool :=
  s.included.isNone && s.excluded.isEmpty

/-- The union of what may be there, where no constraint is neutral. -/
def unionIncluded : Option IdSet → Option IdSet → Option IdSet
  | some a, some b => some (a.union b)
  | some a, none => some a
  | none, b => b

def merge (s t : IdSets) : IdSets :=
  ⟨unionIncluded s.included t.included, s.excluded.union t.excluded⟩

def literals (ids : IdSet) : List Literal :=
  ids.toList.map .integer

/-- The event is one of the included and none of the excluded ones. -/
def toCondition (s : IdSets) : Condition :=
  let included :=
    match s.included with
    | some ids => Condition.mkIn Column.id.name (literals ids)
    | none => .always
  Condition.mkAll [included, Condition.mkNotIn Column.id.name (literals s.excluded)]

end IdSets

/-- The event ids of a group, with one call for its included and one for its excluded values. -/
def Group.metadataIds (g : Group) (index : MetadataIndex) (key : String) : Traced IdSets := do
  let included ←
    if g.included.isEmpty then pure none
    else do
      let ids ← index.ask key g.included
      pure (some (IdSet.ofList ids))
  let excluded ←
    if g.excluded.isEmpty then pure IdSet.empty
    else do
      let ids ← index.ask key g.excluded
      pure (IdSet.ofList ids)
  pure ⟨included, excluded⟩

end AuditSearch
