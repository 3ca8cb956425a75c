import AuditSearch.Sql.Expr

/-!
Heights of expression trees. A database takes expressions up to a greatest height.
-/
namespace AuditSearch.Sql

/-- Expression trees are this high at most. -/
def maxHeight : Nat :=
  1000

namespace Expr

mutual

/-- The height of an expression tree, from the heights of the queries in it. A sign is a node of its own,
and so is each qualifier. What a collation is asked for, the items of a row, the ends of a range and what
stands behind the arguments of a call do not count. -/
def height (queries : Nat → Nat) : Expr → Nat
  | literal (.integer n) => if n < 0 then 2 else 1
  | literal _ | truth _ | param _ | column _ | fixed _ _ => 1
  | name n => n.qualifiers.length + 1
  | call _ s args | aggregate _ s args => ((s.argumentsOf (eachHeight queries args)).foldl max 0) + 1
  | apply _ args | coalesce args | cases args => heights queries args + 1
  | compare _ a b | and a b | or a b => max (a.height queries) (b.height queries) + 1
  | between a _ _ => a.height queries + 1
  | among a items | choose a items => max (a.height queries) (heights queries items) + 1
  | amongRows a q => max (a.height queries) (queries q.number) + 1
  | not a => a.height queries + 1
  | collate _ _ | row _ => 1
  | query q => queries q.number + 1
  | hasRows n => queries n + 1

def eachHeight (queries : Nat → Nat) : List Expr → List Nat
  | [] => []
  | e :: es => e.height queries :: eachHeight queries es

def heights (queries : Nat → Nat) : List Expr → Nat
  | [] => 0
  | e :: es => max (e.height queries) (heights queries es)

end

end Expr

/-- The height of a block: that of its highest expression. The sources do not count. -/
def Block.height (queries : Nat → Nat) (b : Block) : Nat :=
  Expr.heights queries (b.results ++ b.condition.toList ++ b.groups ++ b.having.toList ++ b.more.flatten)

def Selection.height (queries : Nat → Nat) (s : Selection) : Nat :=
  let limits := Expr.heights queries (s.limit.toList ++ s.offset.toList)
  max (max ((s.blocks.map (Block.height queries)).foldl max 0)
      (Expr.heights queries (s.order.map OrderTerm.expr)))
    (if s.limit.isSome then limits + 1 else 0)

/-- The heights of queries, each of which holds only queries in front of it. -/
def Selection.heights (ss : List Selection) : List Nat :=
  ss.foldl (fun done s => done ++ [s.height fun n => done.getD n 0]) []

end AuditSearch.Sql
