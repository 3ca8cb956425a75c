import AuditSearch.Sql.Value

/-!
Tables of a database: their columns and their indexes, and tables with rows.
-/
namespace AuditSearch.Sql

structure TableColumn where
  name : String
  /-- What its values are compared as; the results of a query may have no preference. -/
  affinity : Option Affinity
  /-- Whether its values are never null. -/
  required : Bool
  type : String
  /-- What its value is if none is given, as it was declared. -/
  initial : Option String
  deriving DecidableEq, Repr

def TableColumn.plain (name : String) (affinity : Option Affinity) : TableColumn :=
  ⟨name, affinity, false, "", none⟩

/-- The column that row ids are in where no other one holds them. -/
def TableColumn.rowId : TableColumn :=
  ⟨"rowid", some .integer, true, "", none⟩

/-- By which indexes rows of a table may be found. -/
inductive Indexing where
  | any
  | nothing
  /-- By one index alone, not even by their ids. -/
  | only (name : String)
  deriving DecidableEq, Repr

/-- Columns, by their numbers, that rows are ordered by. Rows that agree on them go by their ids. -/
structure Index where
  name : String
  columns : List (Nat × Collation)
  unique : Bool
  deriving DecidableEq, Repr

/-- A column whose values are those of a column of another table. -/
structure ForeignKey where
  column : String
  table : String
  target : String
  onDelete : String
  deriving DecidableEq, Repr

/-- The schemas that tables may be in. Tables of the second one do not last. -/
inductive Schema where
  | main
  | temporary
  deriving DecidableEq, Repr

namespace Schema

def all : List Schema :=
  [main, temporary]

def name : Schema → String
  | main => "main"
  | temporary => "temp"

def named? (name : String) : Option Schema :=
  all.find? fun s => s.name == name

end Schema

structure Table where
  name : String
  schema : Schema
  otherNames : List String
  /-- Names that mean it only behind the name of its schema. -/
  innerNames : List String
  columns : List TableColumn
  /-- The number of the column that holds row ids. One behind all others is not among the columns. -/
  rowId : Nat
  /-- The last index that was made comes first. -/
  indexes : List Index
  foreignKeys : List ForeignKey
  deriving DecidableEq, Repr

/-- The values of a row, one for each column. -/
abbrev Row :=
  List Value

structure Relation where
  table : Table
  /-- The rows in ascending order of their ids. -/
  rows : List Row

namespace Table

/-- The number of the column of a name without capital letters. Row ids have three more names. -/
def column? (t : Table) (name : String) : Option Nat :=
  match t.columns.findIdx? fun c => c.name == name with
  | some i => some i
  | none => if name == "rowid" || name == "oid" || name == "_rowid_" then some t.rowId else none

/-- The column of a number. The one that is not among the columns holds row ids. -/
def columnAt (t : Table) (i : Nat) : TableColumn :=
  t.columns.getD i .rowId

/-- Whether the table is meant by a name behind that of a schema or behind none, without capital letters. -/
def isCalled (t : Table) (schema : Option Schema) (name : String) : Bool :=
  match schema with
  | none => (t.name :: t.otherNames).contains name
  | some s => s == t.schema && (t.name :: t.otherNames ++ t.innerNames).contains name

end Table

namespace Relation

def rowIdOf (r : Relation) (row : Row) : Value :=
  row.getD r.table.rowId .null

end Relation

end AuditSearch.Sql
