import AuditSearch.Sql.Expr

/-!
The order that a query asks for: values are compared one after the other, each in its own direction and
with nulls on its own side.
-/
namespace AuditSearch.Sql

namespace OrderTerm

def compare (t : OrderTerm) (x y : Value) : Ordering :=
  match x, y with
  | .null, .null => .eq
  | .null, _ => if t.nullsLast then .gt else .lt
  | _, .null => if t.nullsLast then .lt else .gt
  | x, y =>
    let o := Value.orderNulls (t.expr.ownCollation.getD .binary) x y
    if t.descending then o.swap else o

/-- The order of two lists of values, by the first that differ. -/
def compareAll (ts : List OrderTerm) (xs ys : List Value) : Ordering :=
  ((ts.zip (xs.zip ys)).map fun (t, x, y) => t.compare x y).foldr Ordering.then .eq

def directed (e : Expr) (d : Direction) : OrderTerm :=
  ⟨e, d.descending, d.nullsLast⟩

def ascending (e : Expr) : OrderTerm :=
  ⟨e, false, false⟩

end OrderTerm

/-- A row of a result with the values that it is ordered by. -/
structure Entry where
  keys : List Value
  row : Row

namespace Entry

/-- Entries in order. Those that agree stay as they are. -/
def sort (order : List OrderTerm) (entries : List Entry) : List Entry :=
  entries.mergeSort fun a b => OrderTerm.compareAll order a.keys b.keys != .gt

end Entry

end AuditSearch.Sql
