import AuditSearch.EventLog.Tables
import AuditSearch.Sql.Answer.Statement

/-!
Queries for events: statements that a clause is put into, behind the word for a condition and in front of an
order of the newest events first. A clause may be more than a condition, or end the statement.
-/
namespace AuditSearch

structure EventQuery where
  statement : Sql.Statement
  params : Nat
  /-- The condition, if the query asks for the newest events first that meet it and for nothing else. -/
  condition? : Option Sql.Expr

namespace EventQuery

open Sql

def nameOf (c : Column) : Expr :=
  .name ⟨[], c.name, .bare⟩

def blockOf (condition : Expr) : Block where
  distinct := false
  items := Column.all.map fun c => .expr (nameOf c) none
  sources := [⟨.table EventLog.eventTable.name none, none, .any, .every, none⟩]
  condition := some condition
  groups := []
  having := none
  windows := []
  more := []
  isGrouped := false

/-- The order that is asked for behind a clause. -/
def newestFirst : List OrderTerm :=
  [⟨nameOf .createdTimestamp, true, true⟩, ⟨nameOf .id, true, true⟩]

/-- The statement of a clause with a tail, which is behind the condition. -/
def withTail? (condition : Expr) (isOpen : Bool) (tail : List Sql.Token) : Option Selection := do
  let (b, rest) ← blockEnd? (blockOf condition) tail
  let s ← selectionEnd? ⟨b, [], false⟩ rest
  if isOpen then
    if s.order.isEmpty && s.limit.isNone then some { s with order := newestFirst } else none
  else some s

/-- The query of a clause, `none` if the database does not take it. -/
def prepare? (clause : String) : Option EventQuery := do
  let (ts, params) ← tokens? clause
  let isOpen := !ts.contains .stop
  let (ts, queries) ← numberQueries? (ts.filter (· != .stop))
  let (condition, tail) ← leadingExpr? ts
  let main ← withTail? condition isOpen tail
  let statement ← Statement.ofSelection? EventLog.tables queries main
  some ⟨statement, params, if isOpen && tail.isEmpty then statement.main.first.condition else none⟩

end EventQuery

end AuditSearch
