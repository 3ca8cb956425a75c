import AuditSearch.Sql.Plan.Fixed
import AuditSearch.Sql.Plan.Scan

/-!
The rows of a block before they are put into groups: one row of each source, together under the condition.
The rows of a single table are found along a route; several sources are gone through one in the other.
-/
namespace AuditSearch.Sql

/-- The number of rows that a value stands for, if it is an integer. -/
def Value.rowCount? (v : Value) : Option Int :=
  match v.toNumeric with
  | integer n => some n
  | real (.finite q) => if q.den = 1 then some q.num else none
  | _ => none

structure Run where
  session : Session
  facts : Facts
  /-- The rows of the queries in it. -/
  rows : Nat → Env → Walk Row
  /-- How often it is likely to be run. -/
  repeats : Cost
  /-- The row that its blocks go on from. -/
  current : Row

/-- One row of each source. -/
abbrev Member :=
  List Row

/-- Members one after the other, and whether they are in the order that is asked for. -/
structure Members where
  walk : Walk Member
  isOrdered : Bool

namespace Run

def valuesOf (r : Run) (env : Env) (es : List Expr) : Option (List Value) :=
  Expr.evalAll r.session r.rows env .value es

/-- Whether all of some conditions hold. Those behind one that does not are not tested. -/
def allHold (r : Run) (env : Env) : List Expr → Option Bool
  | [] => some true
  | e :: es => do
    if ← e.holds r.session r.rows env then allHold r env es else some false

/-- The rows of a source. Those that a function makes depend on the rows of the sources in front of it. -/
def sourceRows (r : Run) (env : Env) (done : Member) (s : Source) : Walk Row :=
  match s.origin with
  | .query n => (r.rows n env).map fun row => row.map Value.unmarked
  | .table name _ | .call name _ =>
    match r.session.relations.find? fun rel => rel.table.name == name with
    | some rel => rel.rows.map some
    | none => []
  | .current => [some r.current]
  | .function f args =>
    match (r.valuesOf (.ofRows done :: env) args).bind (f.rows? (r.session.relations.map Relation.table)) with
    | some rows => rows.map some
    | none => [none]

def sourcesOf (r : Run) (e : Expr) : List Nat :=
  ((e.refs r.facts.outer).filter fun c => c.level == 0).map ColumnRef.source

/-- Sources with their numbers in an order in which those that functions make come behind those that they depend
on; `fuel` bounds their number. -/
def inOrder (r : Run) : Nat → List Nat → List (Nat × Source) → List (Nat × Source)
  | 0, _, todo => todo
  | fuel + 1, known, todo =>
    let isReady (s : Nat × Source) : Bool :=
      (s.2.origin.args.flatMap r.sourcesOf).all fun i => known.contains i || i == s.1
    match todo.find? isReady with
    | none => todo
    | some (i, s) => (i, s) :: inOrder r fuel (i :: known) (todo.filter fun t => t.1 != i)

/-- The rows of a source, by its number, that a member is put together with. A row of nulls stands for partners
that are missing. -/
def partners (r : Run) (env : Env) (done : Member) (i : Nat) (s : Source) : Walk Row :=
  let rows := r.sourceRows env done s
  if s.join.keepsLeft then
    let conditions := (s.joinedOn.map Expr.conjuncts).getD []
    match rows.filter fun row => r.allHold (.ofRows (done.set i row) :: env) conditions with
    | [] => [some []]
    | found => found
  else rows

/-- Puts a member that has rows of known sources together with rows of further ones. Conditions are tested as
soon as it has the rows that they need. -/
def joined (r : Run) (env : Env) (conditions : List Expr) :
    List Nat → Member → List (Nat × Source) → Walk Member
  | _, done, [] => [some done]
  | known, done, (i, s) :: ss =>
    let now := conditions.filter fun e =>
      let needed := r.sourcesOf e
      needed.contains i && needed.all fun k => k == i || known.contains k
    (r.partners env done i s).bind fun row =>
      let member := done.set i row
      match r.allHold (.ofRows member :: env) now with
      | none => [none]
      | some true => joined r env conditions (i :: known) member ss
      | some false => []

/-- Puts members together with the rows of further sources one source after the other, where rows without a
partner may stay on both sides. -/
def joinedInTurn (r : Run) (env : Env) : Nat → Walk Member → List Source → Walk Member
  | _, done, [] => done
  | width, done, s :: ss =>
    let conditions := (s.joinedOn.map Expr.conjuncts).getD []
    let arePartners (m : Member) (row : Row) : Option Bool := r.allHold (.ofRows (m ++ [row]) :: env) conditions
    let found := Walk.bind done fun m =>
      match Walk.map (Walk.filter (r.sourceRows env m s) (arePartners m)) fun row => m ++ [row] with
      | [] => if s.join.keepsLeft then [some (m ++ [[]])] else []
      | found => found
    let left : Walk Member :=
      if s.join.keepsRight then
        Walk.map (Walk.filter (r.sourceRows env [] s) fun row => do
          let tested ← (← Walk.all? done).mapM fun m => arePartners m row
          some (!tested.any id)) fun row => List.replicate width [] ++ [row]
      else []
    joinedInTurn r env (width + 1) (found ++ left) ss

def usedColumns (r : Run) (es : List Expr) : List Nat :=
  (((Expr.allRefs r.facts.outer es).filter fun c => c.level == 0 && c.source == 0).map
    ColumnRef.column).eraseDups

def goal (r : Run) (b : Block) (order : List OrderTerm) (isGrouping keepsOrder isDistinct : Bool)
    (limit : Option Cost) : Goal :=
  { order, isGrouping, keepsOrder, isDistinct, limit, used := r.usedColumns (b.exprs ++ order.map OrderTerm.expr),
    resultWidth := b.items.length, repeats := r.repeats,
    indexing := (b.sources.head?.map Source.indexing).getD .any }

/-- What a column of the source of a number has to be equal to, if this is what a condition says. -/
def equalTo? (r : Run) (i column : Nat) : Expr → Option Expr
  | .compare .equal a b =>
    let isMeant (e : Expr) : Bool :=
      match e.withoutCollation with
      | .column c => c.level == 0 && c.source == i && c.column == column
      | _ => false
    let isFree (e : Expr) : Bool := !(r.sourcesOf e).contains i
    if isMeant a && isFree b then some b.withoutCollation
    else if isMeant b && isFree a then some a.withoutCollation
    else none
  | _ => none

/-- A condition in two parts: what a test finds in it first, and the rest. -/
def take? (test : Expr → Option Expr) : Expr → Option (Expr × Expr)
  | .and a b =>
    match take? test a with
    | some (found, rest) => some (found, .and rest b)
    | none => (take? test b).map fun (found, rest) => (found, .and a rest)
  | e => (test e).map fun found => (found, .truth true)

/-- Gives a function of a source what it is called with, if conditions say it of columns that are not shown; the
conditions are the one of the block, and that under which rows are partners. `fuel` bounds the values. -/
def called (r : Run) (i : Nat) (isOuter : Bool) : Nat → Source → Expr → Source × Expr
  | 0, s, condition => (s, condition)
  | fuel + 1, s, condition =>
    match s.origin with
    | .function f args =>
      if args.length < f.parameters.length then
        let test := r.equalTo? i (f.shown.length + args.length)
        match s.joinedOn.bind (take? test), if isOuter then none else take? test condition with
        | some (v, rest), _ =>
          called r i isOuter fuel { s with origin := .function f (args ++ [v]), joinedOn := some rest } condition
        | none, some (v, rest) => called r i isOuter fuel { s with origin := .function f (args ++ [v]) } rest
        | none, none => (s, condition)
      else (s, condition)
    | _ => (s, condition)

def allCalled (r : Run) (sources : List Source) (condition : Expr) : List Source × Expr :=
  let keepsRight := sources.any fun s => s.join.keepsRight
  sources.zipIdx.foldl (fun (done, condition) (s, i) =>
    let (s, condition) := r.called i (keepsRight || s.join.keepsLeft) 2 s condition
    (done ++ [s], condition)) ([], condition)

def membersOfAll (r : Run) (env : Env) (sources : List Source) (condition : Expr) : Walk Member :=
  let (sources, condition) := r.allCalled sources condition
  if sources.any fun s => s.join.keepsRight then
    Walk.filter (r.joinedInTurn env 0 [some []] sources) fun m => r.allHold (.ofRows m :: env) condition.conjuncts
  else
    let conditions := condition.conjuncts ++
      sources.flatMap fun s => if s.join.keepsLeft then [] else (s.joinedOn.map Expr.conjuncts).getD []
    match r.allHold (.ofRows [] :: env) (conditions.filter fun e => (r.sourcesOf e).isEmpty) with
    | none => [none]
    | some true =>
      let ordered := r.inOrder sources.length [] (sources.zipIdx.map fun (s, i) => (i, s))
      r.joined env conditions [] (List.replicate sources.length []) ordered
    | some false => []

def members (r : Run) (env : Env) (b : Block) (goal : Goal) : Members :=
  let condition := (b.condition.map Expr.withFixedColumns).getD (.truth true)
  let relation? : Option Relation :=
    match b.sources.map Source.origin with
    | [.table name _] => r.session.relations.find? fun rel => rel.table.name == name
    | _ => none
  match relation? with
  | some relation =>
    let scan : Scan := ⟨r.session, r.rows, env, relation, r.facts, goal⟩
    ⟨(scan.select (maxHeight + 1) false condition).map fun row => [row], scan.isOrdered condition⟩
  | none => ⟨r.membersOfAll env b.sources condition, goal.order.isEmpty⟩

end Run

end AuditSearch.Sql
