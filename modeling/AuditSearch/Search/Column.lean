import AuditSearch.Condition.Basic
import AuditSearch.Query.Group

/-!
The conditions of groups that are tested on the event alone: values of a column, and roles.
-/
namespace AuditSearch.Group

/-- A value as a column of this type compares it; a text that is no integer stays a text. -/
def literal (type : ColumnType) (value : String) : Literal :=
  match type with
  | .integer => ((Text.int64? value).map .integer).getD (.text value)
  | .text | .roleList => .text value

/-- The column has an included value and no excluded one; a null column has no excluded value. -/
def columnCondition (g : Group) (column : String) (type : ColumnType) : Condition :=
  let included :=
    if g.included.isEmpty then [] else [Condition.mkIn column (g.included.map (literal type))]
  let excluded :=
    if g.excluded.isEmpty then []
    else [Condition.mkNullOrNotIn column (g.excluded.map (literal type))]
  Condition.mkAll (included ++ excluded)

/-- The column lists an included role and no excluded one. -/
def roleCondition (g : Group) (column : String) : Condition :=
  let included := Condition.mkAny (g.included.map (Condition.mkHasRole column))
  let excluded :=
    Condition.mkAll (g.excluded.map fun role => Condition.mkNot (Condition.mkHasRole column role))
  if g.included.isEmpty then excluded else Condition.mkAll [included, excluded]

end AuditSearch.Group
