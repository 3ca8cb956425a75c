import AuditSearch.Sql.Eval
import AuditSearch.Sql.Plan.Cost

/-!
The terms of a condition that all have to be true, as far as they can help to find rows: how each limits
a column. A derived term follows from another one, and only helps.
-/
namespace AuditSearch.Sql

/-- How a term limits the column on its left. -/
inductive Limit where
  | equal
  /-- Equal, where null is equal to null. -/
  | same
  | among
  | less
  | atMost
  | greater
  | atLeast
  | null
  deriving DecidableEq, Repr

namespace Limit

def ofComparison? : Comparison → Option Limit
  | .equal => some equal
  | .same => some same
  | .less => some less
  | .atMost => some atMost
  | .greater => some greater
  | .atLeast => some atLeast
  | .notEqual | .notSame => none

def isOne : Limit → Bool
  | equal | same => true
  | _ => false

def isLookUp : Limit → Bool
  | equal | same | among | null => true
  | _ => false

def isFromBelow : Limit → Bool
  | greater | atLeast => true
  | _ => false

def isFromAbove : Limit → Bool
  | less | atMost => true
  | _ => false

end Limit

structure Term where
  /-- The way to the term from the condition: its place, the place of the branch in it, and so on. -/
  key : List Nat
  expr : Expr
  /-- The probability that was written for it, as a cost. -/
  odds : Option Cost
  /-- The column on its left. -/
  column : Option Nat
  /-- Which part of the row on its left the column is. -/
  part : Option Nat
  limit : Option Limit
  equates : Bool
  collation : Option Collation
  /-- Whether it depends on the row, and whether its right side does. -/
  usesRow : Bool
  rightUsesRow : Bool
  isDerived : Bool
  /-- Whether a derived term says the same with its sides exchanged. -/
  isCopied : Bool
  isNotNull : Bool
  /-- Whether it is one of the two ends of a range that a pattern stands for. -/
  isPatternEnd : Bool
  /-- Whether it compares one part of two rows. -/
  isSlice : Bool
  /-- Whether other terms stand for it. -/
  isReplaced : Bool
  /-- Whether it holds a query that depends on the row. -/
  isCorrelated : Bool
  /-- The place of the term that it was derived from as a part. -/
  parent : Option Nat
  /-- The terms of which one has to be true. -/
  branches : List Term
  isIndexable : Bool
  /-- The terms of a branch that all have to be true. -/
  parts : List Term
  deriving Inhabited

/-- What terms depend on beside their expressions: the columns that queries take from around them, and the
parameters. -/
structure Facts where
  outer : Nat → List ColumnRef
  params : List Value

namespace Expr

mutual

/-- The columns that are named in an expression, those in its queries aside. -/
def namedColumns : Expr → List ColumnRef
  | column c => [c]
  | fixed c a => c :: a.namedColumns
  | call _ _ args | apply _ args | aggregate _ _ args | coalesce args | cases args | row args =>
    allNamedColumns args
  | compare _ a b | and a b | or a b => a.namedColumns ++ b.namedColumns
  | between a low high => a.namedColumns ++ low.namedColumns ++ high.namedColumns
  | among a items | choose a items => a.namedColumns ++ allNamedColumns items
  | not a | collate _ a | amongRows a _ => a.namedColumns
  | literal _ | truth _ | param _ | name _ | query _ | hasRows _ => []

def allNamedColumns : List Expr → List ColumnRef
  | [] => []
  | e :: es => e.namedColumns ++ allNamedColumns es

end

/-- An expression without the collations and the probabilities around it. -/
def core : Expr → Expr
  | collate _ e => e.core
  | apply (.likely _) [e] => e.core
  | e => e

def odds? : Expr → Option Cost
  | apply (.likely p) [_] => some (Cost.ofNat p - 270)
  | _ => none

def conjuncts : Expr → List Expr
  | and a b => a.conjuncts ++ b.conjuncts
  | collate c e =>
    match e.core with
    | and _ _ => e.conjuncts
    | _ => [collate c e]
  | apply (.likely p) [e] =>
    match e.core with
    | and _ _ => e.conjuncts
    | _ => [apply (.likely p) [e]]
  | e => [e]

def disjuncts : Expr → List Expr
  | or a b => a.disjuncts ++ b.disjuncts
  | collate c e =>
    match e.core with
    | or _ _ => e.disjuncts
    | _ => [collate c e]
  | apply (.likely p) [e] =>
    match e.core with
    | or _ _ => e.disjuncts
    | _ => [apply (.likely p) [e]]
  | e => [e]

def rowColumn? : Expr → Option ColumnRef
  | column c | fixed c _ => if c.level = 0 then some c else none
  | _ => none

end Expr

namespace Facts

def usesRow (f : Facts) (e : Expr) : Bool :=
  (e.refs f.outer).any fun c => c.level == 0

def isCorrelated (f : Facts) (e : Expr) : Bool :=
  e.queries.any fun n => !(f.outer n).isEmpty

end Facts

namespace Term

/-- The term of an expression before it is known what it limits. -/
def ofExpr (f : Facts) (key : List Nat) (e : Expr) : Term :=
  let core := e.core
  { key, expr := core, odds := e.odds?, column := none, part := none, limit := none, equates := false,
    collation := none, usesRow := f.usesRow core, rightUsesRow := false, isDerived := false,
    isCopied := false, isNotNull := false, isPatternEnd := false, isSlice := false, isReplaced := false,
    isCorrelated := f.isCorrelated core, parent := none, branches := [], isIndexable := false, parts := [] }

def derived (f : Facts) (key : List Nat) (e : Expr) : Term :=
  { ofExpr f key e with isDerived := true }

def isOr (t : Term) : Bool :=
  !t.branches.isEmpty

def isAnd (t : Term) : Bool :=
  !t.parts.isEmpty

def place (t : Term) : Nat :=
  t.key.getLastD 0

def right (t : Term) : Expr :=
  match t.expr with
  | .compare _ _ b => b
  | _ => .literal .null

end Term

end AuditSearch.Sql
