import AuditSearch.Sql.Plan.Choice

/-!
Going through the rows of a table that a condition selects, along the route that is chosen. Terms that are
the same for each row are tested in front of all rows; those that the route uses are not tested again.
-/
namespace AuditSearch.Sql

/-- What a scan of a table goes by. -/
structure Scan where
  session : Session
  /-- The rows of the queries in the condition. -/
  rows : Nat → Env → Walk Row
  /-- The rows around the table. -/
  env : Env
  relation : Relation
  facts : Facts
  goal : Goal

/-- What a column is looked up as. -/
inductive Key where
  | equal (v : Value)
  | same (v : Value)
  | among (vs : List Value)
  | null

namespace Scan

def valueOf (s : Scan) (row : List Row) (e : Expr) : Option Value :=
  e.eval s.session s.rows (.ofRows row :: s.env) .value

def holds (s : Scan) (row : List Row) (e : Expr) : Option Bool :=
  e.holds s.session s.rows (.ofRows row :: s.env)

/-- The value that a term compares a column with; of a row it is the first part. -/
def bound (s : Scan) (t : Term) : Option Value :=
  match t.right with
  | .row (e :: _) => s.valueOf [] e
  | e => s.valueOf [] e

def listed (s : Scan) (t : Term) : Option (List Value) :=
  let k := t.part.getD 0
  match t.expr with
  | .among _ items => do
    let found ← items.mapM fun e => e.parts.mapM (s.valueOf [])
    some (found.map fun r => r.getD k .null)
  | .amongRows _ q => do
    let found ← Walk.all? (s.rows q.number (.ofRows [] :: s.env))
    some (found.map fun r => r.getD k .null)
  | _ => some []

/-- The keys of terms that look columns up, none if no row can have them. Behind a list without values no
further key is evaluated. -/
def keys (s : Scan) : List Term → Option (Option (List Key))
  | [] => some (some [])
  | t :: ts => do
    let key ←
      match t.limit with
      | some .among => (s.listed t).map fun vs => Key.among (vs.filter (· != .null))
      | some .null => some .null
      | some .same => (s.bound t).map .same
      | _ => (s.bound t).map .equal
    match key with
    | .among [] => some none
    | key =>
      let rest ← keys s ts
      some (if (match key with | .equal .null => true | _ => false) then none else rest.map (key :: ·))

def sharedAffinity (k : KeyColumn) (t : Term) : Affinity :=
  match t.expr with
  | .compare _ _ b => .common k.affinity b.affinity?
  | .amongRows _ q => .common k.affinity (q.columns.getD (t.part.getD 0) none)
  | _ => k.affinity.getD .blob

def isKey (k : KeyColumn) (t : Term) (x : Value) : Key → Bool
  | .equal v => Value.compareAs .equal k.collation (sharedAffinity k t) x v == some true
  | .same v => Value.compareAs .same k.collation (sharedAffinity k t) x v == some true
  | .among vs => vs.any fun v => Value.compareAs .equal k.collation (sharedAffinity k t) x v == some true
  | .null => x == .null

/-- Whether a value of a column is on the right side of an end of a range; at an end that is no value, it is
not null. -/
def isInside (k : KeyColumn) (t : Term) (v x : Value) : Bool :=
  if t.isNotNull then x != .null
  else
    let op : Comparison :=
      match t.limit, t.right with
      | some .greater, .row _ | some .atLeast, _ => .atLeast
      | some .less, .row _ | some .atMost, _ => .atMost
      | some .greater, _ => .greater
      | _, _ => .less
    Value.compareAs op k.collation (sharedAffinity k t) x v == some true

/-- The tuples of values that keys look up, as their columns keep them. -/
def tuples : List (KeyColumn × Key) → List (List Value)
  | [] => [[]]
  | (k, key) :: rest =>
    let vs : List Value :=
      match key with
      | .equal v | .same v => [v.stored k.affinity]
      | .among vs => vs.map (Value.stored k.affinity)
      | .null => [.null]
    vs.flatMap fun v => (tuples rest).map (v :: ·)

/-- The order of a row and a tuple of values of its first columns. -/
def orderTo (columns : List KeyColumn) (row : Row) (tuple : List Value) : Ordering :=
  ((columns.zip tuple).map fun (k, v) => Value.orderNulls k.collation (row.getD k.column .null) v).foldr
    Ordering.then .eq

def arranged (f : Finder) (rows : List Row) : List Row :=
  if f.index.isNone then rows
  else
    rows.mergeSort fun a b => orderTo f.columns a (f.columns.map fun k => b.getD k.column .null) != .gt

def isFound (f : Finder) (rows : List Row) (isReversed : Bool) (keys : List (KeyColumn × Key))
    (k : KeyColumn) (start : Option (Term × Value)) : Bool :=
  (tuples keys).any fun tuple =>
    rows.any fun row =>
      match orderTo f.columns row tuple with
      | .lt => isReversed
      | .gt => !isReversed
      | .eq =>
        match start with
        | none => true
        | some (t, v) =>
          isInside k t v (row.getD k.column .null)

def visit (s : Scan) (c : Choice) (f : Finder) : Option (List Row) := do
  let r := c.route
  let rows := arranged f s.relation.rows
  let rows := if c.isReversed then rows.reverse else rows
  match ← s.keys (r.terms.take r.lookUps) with
  | none => some []
  | some keys =>
    let looked := f.columns.zip keys
    let rows := rows.filter fun row =>
      (looked.zip r.terms).all fun ((k, key), t) => isKey k t (row.getD k.column .null) key
    match f.columns[r.lookUps]? with
    | none => some rows
    | some k =>
      let ends := r.terms.drop r.lookUps
      let below := if r.fromBelow then ends.head? else none
      let above := if r.fromAbove then ends.getLast? else none
      let (start, stop) := if c.isReversed then (above, below) else (below, above)
      let value (t : Option Term) : Option (Option (Term × Value)) :=
        match t with
        | none => some none
        | some t => (s.bound t).map fun v => some (t, v)
      let isOpen (e : Option (Term × Value)) : Bool :=
        match e with
        | some (t, .null) => t.isNotNull
        | _ => true
      let inside (e : Option (Term × Value)) (row : Row) : Bool :=
        match e with
        | none => true
        | some (t, v) => isInside k t v (row.getD k.column .null)
      let start ← value start
      if !isOpen start || !isFound f s.relation.rows c.isReversed looked k start then some []
      else
        let stop ← value stop
        if !isOpen stop then some []
        else if c.movesNulls && ends.isEmpty then
          let (nulls, others) := rows.partition fun row => row.getD k.column .null == .null
          some (if c.isReversed then nulls ++ others else others ++ nulls)
        else some (rows.filter fun row => inside start row && inside stop row)

/-- The places of the terms that a route makes sure of; a term is sure if all that were derived from it as
its parts are. -/
def sure (clause : Clause) (r : Route) : List Nat :=
  let used := r.terms.filter fun t =>
    !(r.isTransitive && t.equates) &&
      (match t.right with | .row _ => (t.limit.map Limit.isLookUp).getD false | _ => true)
  let withParents (known : List Nat) : List Nat :=
    known ++ ((List.range clause.length).filter fun i =>
      let children := clause.zipIdx.filter fun (t, _) => t.parent == some i
      !known.contains i && !children.isEmpty && children.all fun (_, j) => known.contains j)
  withParents (withParents (withParents (used.map Term.place)))

/-- Whether a term is tested in front of all rows. -/
def isEarly (t : Term) : Bool :=
  !t.usesRow && !t.isDerived && t.expr.isDeterministic

/-- The terms that are tested on each row, in order: those that need entries alone, then the others, and at
last those with queries that depend on the row. -/
def tests (clause : Clause) (r : Route) : List Expr :=
  let known := sure clause r
  let left := (clause.zipIdx.filter fun (t, i) =>
    !t.isDerived && !t.isReplaced && !isEarly t && !known.contains i).map (·.1)
  let (late, now) := left.partition Term.isCorrelated
  let (first, second) :=
    match r.kind, r.finder with
    | .entries, some f => if r.isCovering then ([], now) else now.partition fun t => f.coversExpr t.expr
    | _, _ => ([], now)
  (first ++ second ++ late).map Term.expr

/-- Whether all of some expressions are true. Those behind one that is not are not tested. -/
def allHold (s : Scan) (row : List Row) : List Expr → Option Bool
  | [] => some true
  | e :: es => do
    if ← s.holds row e then allHold s row es else some false

/-- The condition of a branch: what has to be true in it, with the other terms that may help. -/
def branchCondition (clause : Clause) (whole branch : Term) : Expr :=
  let others := clause.filter fun t =>
    t.key != whole.key && !t.isDerived && !isEarly t && !t.isSlice && t.expr.queries.isEmpty &&
      (t.limit.isSome || t.equates || t.isOr)
  match others.map Term.expr with
  | [] => branch.expr
  | e :: es => .and branch.expr (es.foldl .and e)

def withoutRepeats (r : Relation) : List Value → Walk Row → Walk Row
  | _, [] => []
  | seen, none :: w => none :: withoutRepeats r seen w
  | seen, some row :: w =>
    let id := r.rowIdOf row
    if seen.contains id then withoutRepeats r seen w else some row :: withoutRepeats r (id :: seen) w

def choice? (s : Scan) (isBranch : Bool) (clause : Clause) : Option Choice :=
  let goal := if isBranch then { s.goal with order := [] } else s.goal
  Choice.ofRegion ⟨s.relation.table, clause, goal, isBranch⟩

def isOrdered (s : Scan) (condition : Expr) : Bool :=
  (s.choice? false (Clause.ofExpr s.facts condition)).any Choice.isOrdered

/-- The rows that a condition selects; `fuel` bounds how deep branches are in each other. -/
def select (s : Scan) : Nat → Bool → Expr → Walk Row
  | 0, _, _ => []
  | fuel + 1, isBranch, condition =>
    let clause := Clause.ofExpr s.facts condition
    match s.allHold [] ((clause.filter isEarly).map Term.expr) with
    | none => [none]
    | some false => []
    | some true =>
      match s.choice? isBranch clause with
      | none => []
      | some c =>
        let visited : Walk Row :=
          match c.route.kind, c.route.finder, c.route.terms with
          | .branches, _, t :: _ =>
            withoutRepeats s.relation [] <|
              (t.branches.filter fun b => b.isAnd || b.column.isSome).flatMap fun b =>
                select s fuel true (branchCondition clause t b)
          | _, some f, _ =>
            match s.visit c f with
            | none => [none]
            | some rows => rows.map some
          | _, _, _ => s.relation.rows.map some
        let tests := tests clause c.route
        visited.filter fun row => s.allHold [row] tests

end Scan

end AuditSearch.Sql
