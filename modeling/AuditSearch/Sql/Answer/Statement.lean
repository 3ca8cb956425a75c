import AuditSearch.Sql.Answer.Selection
import AuditSearch.Sql.Statement

/-!
The rows of a statement: those of its main query, where the queries in it find their own rows from the rows
around them.
-/
namespace AuditSearch.Sql

namespace Statement

/-- How often a query in another one is likely to be run, as a cost: 28 times. -/
def innerRepeats : Cost :=
  48

/-- The rows of the query of a number; `fuel` bounds how deep queries are in each other. -/
def rows (s : Statement) (session : Session) (facts : Facts) : Nat → Nat → Env → Walk Row
  | 0, _, _ => []
  | fuel + 1, n, env =>
    match s.query? n with
    | none => []
    | some q => Run.answer ⟨session, facts, rows s session facts fuel, innerRepeats, []⟩ env q

def answer (s : Statement) (session : Session) : Walk Row :=
  let known := outerColumns s.queries
  let facts : Facts := ⟨fun n => (known.lookup n).getD [], session.params⟩
  Run.answer ⟨session, facts, s.rows session facts s.queries.length, 0, []⟩ [] s.main

end Statement

end AuditSearch.Sql
