import AuditSearch.Condition.Basic
import AuditSearch.Field
import AuditSearch.Lookup
import AuditSearch.Query.Group

/-!
The condition of a group that names people. The identities are asked of every directory and found
again in columns of the event.
-/
namespace AuditSearch

/-- Adds an identity at the end, unless one with its id and login is there. -/
def Identity.addNew (known : List Identity) (i : Identity) : List Identity :=
  if known.any fun k => k.id == i.id && k.login == i.login then known else known ++ [i]

/-- Puts together what directories answered, in order and without repeats of id and login. -/
def Identity.mergeAll (answers : List (List Identity)) : List Identity :=
  answers.flatten.foldl addNew []

/-- The distinct values of an attribute, in the order of the identities. -/
def Projection.values (p : Projection) (identities : List Identity) : List Literal :=
  identities.foldl
    (fun known i => if i.value p.attr ∈ known then known else known ++ [i.value p.attr]) []

/-- Asks every directory in turn and puts the answers together. -/
def Directory.askAll (directories : List Directory) (attr : Attribute) (values : List String) :
    Traced (List Identity) := do
  let answers ← directories.mapM fun d => d.ask attr values
  pure (Identity.mergeAll answers)

/-- One of the columns holds one of the identities. -/
def Projection.anyOf (projections : List Projection) (identities : List Identity) : Condition :=
  Condition.mkAny (projections.map fun p => Condition.mkIn p.column (p.values identities))

/-- No column holds one of the identities. -/
def Projection.noneOf (projections : List Projection) (identities : List Identity) : Condition :=
  Condition.mkAll (projections.map fun p => Condition.mkNullOrNotIn p.column (p.values identities))

/-- The actor is one of the included and none of the excluded people. -/
def Group.identityCondition (g : Group) (directories : List Directory) (attr : Attribute)
    (projections : List Projection) : Traced Condition := do
  let included ←
    if g.included.isEmpty then pure []
    else do
      let found ← Directory.askAll directories attr g.included
      pure [Projection.anyOf projections found]
  let excluded ←
    if g.excluded.isEmpty then pure []
    else do
      let found ← Directory.askAll directories attr g.excluded
      pure [Projection.noneOf projections found]
  pure (Condition.mkAll (included ++ excluded))

end AuditSearch
