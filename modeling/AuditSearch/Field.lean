import AuditSearch.Calendar
import AuditSearch.Event
import AuditSearch.Identity

/-!
Search fields: a name that can stand before the colon of a term, and how its values are resolved.
-/
namespace AuditSearch

/-- An event column that holds an attribute of the person behind the event. -/
structure Projection where
  column : String
  attr : Attribute
  deriving DecidableEq, Repr

inductive Resolution where
  /-- The value stands in a column of the event. -/
  | column (column : String) (type : ColumnType)
  /-- The value is looked up in the metadata under a key. -/
  | metadata (key : String)
  /-- The value is an attribute of identities, which are found again in columns. -/
  | identity (attr : Attribute) (projections : List Projection)
  /-- The value is one of the roles in a column. -/
  | role (column : String)
  /-- The value is a day that bounds a column of instants. -/
  | day (column : String) (bound : DayBound)
  deriving DecidableEq, Repr

inductive FieldKind where
  | direct
  | metadata
  | identity
  | day
  deriving DecidableEq, Repr

def FieldKind.name : FieldKind → String
  | direct => "direct"
  | metadata => "meta_indirect"
  | identity => "identity_indirect"
  | day => "date_range"

def Resolution.kind : Resolution → FieldKind
  | column _ _ => .direct
  | metadata _ => .metadata
  | identity _ _ | role _ => .identity
  | day _ _ => .day

structure Field where
  name : String
  resolution : Resolution
  deriving DecidableEq, Repr

def Field.ofColumn (name : String) (type : ColumnType) : Field :=
  ⟨name, .column name type⟩

end AuditSearch
