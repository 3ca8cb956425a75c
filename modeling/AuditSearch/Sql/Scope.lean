import AuditSearch.Sql.Height
import AuditSearch.Sql.Parser.Selection

/-!
What names stand for: a column of a source of the query that the name is in or of a query around it, a
function, or a truth value. A name in double quotes that stands for no column is a text.
-/
namespace AuditSearch.Sql

namespace Expr

def mayBeNull : Expr → Bool
  | apply .plain [a] | apply .negate [a] => a.mayBeNull
  | literal v => v == .null
  | column c => !c.required
  | _ => true

end Expr

/-- A source of a query as names refer to it. -/
structure Shape where
  /-- The name of the source, and the schema it is in. -/
  name : String
  schema : Option Schema
  otherNames : List String
  /-- Names that mean it only behind the name of its schema. -/
  innerNames : List String
  columns : List TableColumn
  /-- How many of the columns, from the first one on, a star stands for. -/
  shown : Nat
  rowId : Option Nat
  join : Join
  /-- The columns in which its rows agree with those of the sources in front of it. -/
  shared : List String
  deriving DecidableEq, Repr

/-- What names may refer to in one query: its sources, and the names of its results. -/
structure Scope where
  sources : List Shape
  results : List (String × Expr)

namespace Shape

def ofColumns (name : String) (columns : List TableColumn) : Shape :=
  ⟨name, none, [], [], columns, columns.length, none, .every, []⟩

def ofTable (t : Table) : Shape :=
  ⟨t.name, some t.schema, t.otherNames, t.innerNames, t.columns, t.columns.length, some t.rowId, .every, []⟩

def ofFunction (f : RowFunction) : Shape :=
  { ofTable f.table with shown := f.shown.length }

def shownColumns (s : Shape) : List TableColumn :=
  s.columns.take s.shown

/-- Whether qualifiers, the schema first, mean the source. -/
def isMeant (s : Shape) : List String → Bool
  | [] => true
  | [source] => (s.name :: s.otherNames).contains (foldName source)
  | [schema, source] =>
    let schema := Schema.named? (foldName schema)
    schema.isSome && schema == s.schema && (s.name :: s.otherNames ++ s.innerNames).contains (foldName source)
  | _ => false

def column? (s : Shape) (written : String) : Option Nat :=
  s.columns.findIdx? fun c => c.name == written

def rowIdNames : List String :=
  ["rowid", "oid", "_rowid_"]

def ref (s : Shape) (level source column : Nat) : ColumnRef :=
  let c := s.columns.getD column .rowId
  ⟨level, source, column, c.affinity, c.required, s.rowId == some column⟩

end Shape

namespace Scope

/-- The columns of one name, from the first source on: one that rows agree in is the one in front, or the one
behind if rows are kept there, or the first of both that is not null if they are kept on both sides. There are
several if rows do not agree in them. -/
def merged (name : String) (found : List (Shape × ColumnRef)) : List (List ColumnRef) :=
  found.foldl (fun done (shape, c) =>
    match done with
    | [] => [[c]]
    | known :: others =>
      if !shape.shared.contains name then [c] :: known :: others
      else if !shape.join.keepsRight then known :: others
      else if !shape.join.keepsLeft then [[c]]
      else (known ++ [c]) :: others) []

/-- What columns stand for of which the first that is not null counts. -/
def first : List ColumnRef → Expr
  | [c] => .column c
  | cs => .coalesce (cs.map Expr.column)

def meanings (s : Scope) (level : Nat) (n : Name) : List Expr :=
  let written := foldName n.written
  let meant := s.sources.zipIdx.filter fun (shape, _) => shape.isMeant n.qualifiers
  let found := meant.filterMap fun (shape, i) =>
    (shape.column? written).map fun c => (shape, shape.ref level i c)
  if found.isEmpty && Shape.rowIdNames.contains written then
    meant.filterMap fun (shape, i) => shape.rowId.map fun c => .column (shape.ref level i c)
  else (merged written found).map first

def result? (s : Scope) (n : Name) : Option Expr :=
  if n.qualifiers.isEmpty then s.results.lookup (foldName n.written) else none

end Scope

/-- What a name means in the queries around it, the innermost first: `none` if nothing has the name, and
`some none` if several things have it. -/
def meaning? (n : Name) : Nat → List Scope → Option (Option Expr)
  | _, [] => none
  | level, s :: ss =>
    match s.meanings level n, s.result? n with
    | [e], _ => some (some e)
    | _ :: _ :: _, _ => some none
    | [], some e => some (if level = 0 then some e else none)
    | [], none => meaning? n (level + 1) ss

def lookUp? (scopes : List Scope) (grouped windowed : Bool) (n : Name) : Option Expr :=
  match meaning? n 0 scopes with
  | some (some e) =>
    if (e.hasAggregate && !grouped) || (!e.windowCalls.isEmpty && !windowed) then none else some e
  | some none => none
  | none =>
    match n.qualifiers, n.quoting, foldName n.written with
    | [], .doubleQuotes, _ => some (.literal (.text n.written))
    | [], .bare, "true" => some (.truth true)
    | [], .bare, "false" => some (.truth false)
    | _, _, _ => none

def Aggregate.named? (name : String) (arguments : Nat) : Option Aggregate :=
  match name, arguments with
  | "count", 0 | "count", 1 => some .count
  | "sum", 1 => some .sum
  | "total", 1 => some .total
  | "avg", 1 => some .average
  | "min", 1 => some .least
  | "max", 1 => some .greatest
  | "group_concat", 1 | "group_concat", 2 | "string_agg", 2 => some .joined
  | "json_group_array", 1 => some (.documentArray false)
  | "jsonb_group_array", 1 => some (.documentArray true)
  | "json_group_object", 2 => some (.documentObject false)
  | "jsonb_group_object", 2 => some (.documentObject true)
  | _, _ => none

def WindowFunction.named? (name : String) (arguments : Nat) : Option WindowFunction :=
  match name, arguments with
  | "row_number", 0 => some .rowNumber
  | "rank", 0 => some .rank
  | "dense_rank", 0 => some .denseRank
  | "percent_rank", 0 => some .percentRank
  | "cume_dist", 0 => some .cumulativeShare
  | "ntile", 1 => some .partNumber
  | "lag", 1 | "lag", 2 | "lag", 3 => some .before
  | "lead", 1 | "lead", 2 | "lead", 3 => some .behind
  | "first_value", 1 => some .first
  | "last_value", 1 => some .last
  | "nth_value", 2 => some .numbered
  | name, n => (Aggregate.named? name n).map .aggregate

/-- Probabilities are counted in this unit. -/
def probabilityUnit : Nat :=
  134217728

def probability? : Expr → Option Nat
  | .literal (.real (.finite q)) =>
    if 0 ≤ q ∧ q ≤ 1 then some (q * probabilityUnit).floor.toNat else none
  | _ => none

def called? (written : String) (args : List Expr) : Option Expr :=
  match foldName written, args with
  | "iif", [condition, yes, no] => some (.cases [condition, yes, no])
  | "ifnull", [a, b] => some (.coalesce [a, b])
  | "coalesce", a :: b :: rest => some (.coalesce (a :: b :: rest))
  | "likely", [a] => some (.apply (.likely (probabilityUnit / 16 * 15)) [a])
  | "unlikely", [a] => some (.apply (.likely (probabilityUnit / 16)) [a])
  | "likelihood", [a, p] => (probability? p).map fun p => .apply (.likely p) [a]
  | name, args => (Routine.named? name args.length).map fun r => .apply (.routine r) args

/-- A comparison whose sides have been looked up. Sameness with a word for a truth value is a test for it. -/
def compared (op : Comparison) (a b : Expr) : Expr :=
  match op, b.withoutCollation with
  | .same, .truth wanted => .apply (.hasTruth wanted false) [a]
  | .notSame, .truth wanted => .apply (.hasTruth wanted true) [a]
  | op, _ => .compare op a b

/-- A test for null. In conditions it is decided at once if the value is known to be none; the result counts
as computed, not as written. -/
def nullTest (inConditions wanted : Bool) (a : Expr) : Expr :=
  if inConditions && !a.mayBeNull then .coalesce [.literal (.integer (if wanted then 0 else 1))]
  else .apply (if wanted then .isNull else .isNotNull) [a]

/-- The queries that have been looked up, by their numbers, the last one first. -/
abbrev Lookup :=
  StateT (List (Nat × Selection)) Option

/-- The columns that a query takes from around it, where those of the queries in it are known. -/
def Selection.outerColumns (outer : Nat → List ColumnRef) (s : Selection) : List ColumnRef :=
  let es := s.blocks.flatMap Block.exprs ++ s.order.map OrderTerm.expr ++ s.limit.toList ++ s.offset.toList
  ((Expr.allRefs outer es).filter fun c => 0 < c.level).map (fun c => { c with level := c.level - 1 }) ++
    (s.blocks.flatMap Block.origins).flatMap outer

def outerColumns (queries : List (Nat × Selection)) : List (Nat × List ColumnRef) :=
  queries.reverse.foldl (fun (known : List (Nat × List ColumnRef)) (n, s) =>
    (n, (s.outerColumns fun m => (known.lookup m).getD []).eraseDups) :: known) []

/-- How many queries around a query those are whose groups the functions in it go over, where those of the
queries in it are known. -/
def Selection.outerLevels (outer : Nat → List Nat) (s : Selection) : List Nat :=
  let es := s.blocks.flatMap Block.exprs ++ s.order.map OrderTerm.expr
  ((Expr.allAggregateLevels outer es).filter (0 < ·)).map (· - 1) ++
    (s.blocks.flatMap Block.origins).flatMap outer

/-- How many queries around each of some queries those are whose groups the functions in it go over. -/
def outerLevels (queries : List (Nat × Selection)) : List (Nat × List Nat) :=
  queries.reverse.foldl (fun (known : List (Nat × List Nat)) (n, s) =>
    (n, (s.outerLevels fun m => (known.lookup m).getD []).eraseDups) :: known) []

/-- Where an expression stands. -/
structure Place where
  /-- The queries around it, the innermost first. -/
  scopes : List Scope
  /-- Whether functions of the rows of a group may be called. -/
  grouped : Bool
  /-- Whether it and all queries around it stand in conditions. -/
  inConditions : Bool
  /-- Whether functions may be called over windows. -/
  windowed : Bool
  /-- The height of the expressions around it. -/
  depth : Nat
  /-- What has been defined for the queries around it, the innermost first. -/
  definitions : List (List Definition)
  /-- The defined queries that it is in, by their numbers. -/
  opened : List Nat
  /-- The definition of the query that is looked up, if it is a defined one. -/
  own : Option Definition
  /-- The name of the row that a block goes on from, with its columns. -/
  current : Option (String × List TableColumn)

namespace Place

/-- A place of queries in a query, which go on from no row of it. -/
def inside (p : Place) : Place :=
  { p with own := none, current := none }

def defined? (name : String) : List (List Definition) → Option (Definition × List (List Definition))
  | [] => none
  | ds :: outer =>
    match ds.find? fun d => d.name == name with
    | some d => some (d, ds :: outer)
    | none => defined? name outer

/-- How the queries in an expression are looked up: the heights of all, and the columns of one. -/
structure Inner where
  height : Nat → Nat
  columns : Place → Nat → Lookup (List TableColumn)

def single (m : Lookup Expr) : Lookup Expr := do
  let e ← m
  if e.width = 1 then pure e else failure

def sameWidth (e : Expr) (es : List Expr) : Lookup Unit :=
  if es.all fun f => f.width == e.width then pure () else failure

/-- A query in an expression. Its last block tells what the columns of its result are compared as. -/
def queryRef (inner : Inner) (p : Place) (q : QueryRef) : Lookup QueryRef := do
  let _ ← inner.columns p q.number
  let s ← (·.lookup q.number) <$> get
  pure ⟨q.number, (s.map fun s => s.last.lastRow.map Expr.affinity?).getD []⟩

/-- The collations that an expression compares by have to be known. -/
def known (c : Option Collation) : Lookup Unit :=
  if c.isSome then pure () else failure

/-- The collations by which the parts of two expressions are compared. -/
def knownForParts (a b : Expr) : Lookup Unit :=
  match a.parts, b.parts with
  | [x], [y] => known (Expr.collationOf x y)
  | xs, ys => (xs.zip ys).forM fun (x, y) => known (Expr.collationOf x y)

/-- How many queries around a function of the rows of a group the one is that it belongs to: the innermost one
of which it takes a column, if it takes any. -/
def ownLevel (args : List Expr) : Lookup Nat := do
  let known := outerColumns (← get)
  let refs := Expr.allRefs (fun n => (known.lookup n).getD []) args
  pure ((refs.map ColumnRef.level).min?.getD 0)

/-- Whether functions in some expressions go over groups of the query that these are in. -/
def goesOverGroups (es : List Expr) : Lookup Bool := do
  let known := outerLevels (← get)
  pure ((Expr.allAggregateLevels (fun n => (known.lookup n).getD []) es).contains 0)

/-- A call over a window is of a function that may be called so: with a condition only if it is one of the
rows of a group, and neither without repeated arguments nor in an order of its own. -/
def overWindow (written : String) (shape : CallShape) (w : Window) (args : List Expr) : Lookup Unit := do
  let f ← StateT.lift (WindowFunction.named? (foldName written) shape.arguments)
  let isAggregate := match f with | .aggregate _ => true | _ => false
  if shape.form == .distinct || !shape.order.isEmpty || w.base.isSome || !w.isProper then failure
  if shape.isFiltered && !isAggregate then failure
  let es := shape.windowOf args
  (w.partsOf es ++ w.orderOf es).forM fun e => known e.ownCollation
  if isAggregate then known (Expr.argumentsCollation (shape.argumentsOf args))

mutual

def resolve (inner : Inner) (p : Place) : Expr → Lookup Expr
  | .name n => StateT.lift (lookUp? p.scopes p.grouped p.windowed n)
  | .call written shape args =>
    match shape.window, Aggregate.named? (foldName written) shape.arguments with
    | some w, _ => do
      let args ← resolveAll inner { p with windowed := false } args
      if !p.windowed then failure
      overWindow written shape w args
      pure (.call written shape args)
    | none, some f => do
      let args ← resolveAll inner { p with grouped := false, windowed := false } args
      if !p.grouped || (shape.form == .distinct && shape.arguments != 1) then failure
      let level ← ownLevel args
      if f.compares then known (Expr.argumentsCollation (shape.argumentsOf args))
      (shape.orderOf args).forM fun e => known e.ownCollation
      pure (.aggregate f { shape with level } args)
    | none, none => do
      let args ← resolveAll inner p args
      let e ← StateT.lift (if shape.isBare then called? written args else none)
      match e with
      | .apply (.routine r) args => if r.compares then known (Expr.argumentsCollation args)
      | _ => pure ()
      pure e
  | .apply .isNull [a] => do
    let a ← single (resolve inner p a)
    pure (nullTest p.inConditions true a)
  | .apply .isNotNull [a] => do
    let a ← single (resolve inner p a)
    pure (nullTest p.inConditions false a)
  | .apply f args => do
    let args ← resolveAll inner p args
    pure (.apply f args)
  | .aggregate f shape args => do
    let args ← resolveAll inner p args
    pure (.aggregate f shape args)
  | .compare op a b => do
    let a ← resolve inner p a
    let b ← resolve inner p b
    sameWidth a [b]
    knownForParts a b
    pure (compared op a b)
  | .between a low high => do
    let a ← resolve inner p a
    let low ← resolve inner p low
    let high ← resolve inner p high
    sameWidth a [low, high]
    knownForParts a low
    knownForParts a high
    pure (.between a low high)
  | .among (.row items) rows => do
    let a ← resolveAll inner p items
    let rows ← resolveRows inner p rows
    sameWidth (.row a) rows
    a.forM fun x => known x.ownCollation
    pure (.among (.row a) rows)
  | .among a items => do
    let a ← single (resolve inner p a)
    let items ← resolveAll inner p items
    known a.ownCollation
    pure (.among a items)
  | .amongRows a q => do
    let a ← resolve inner p a
    let q ← queryRef inner p q
    a.parts.forM fun x => known x.ownCollation
    if a.width = q.columns.length then pure (.amongRows a q) else failure
  | .not a => do
    let a ← single (resolve inner p a)
    pure (.not a)
  | .and a b => do
    let a ← single (resolve inner p a)
    let b ← single (resolve inner p b)
    pure (.and a b)
  | .or a b => do
    let a ← single (resolve inner p a)
    let b ← single (resolve inner p b)
    pure (.or a b)
  | .collate c a => do
    let a ← single (resolve inner p a)
    pure (.collate c a)
  | .fixed c a => do
    let a ← resolve inner p a
    pure (.fixed c a)
  | .coalesce args => do
    let args ← resolveAll inner p args
    pure (.coalesce args)
  | .cases branches => do
    let branches ← resolveAll inner p branches
    pure (.cases branches)
  | .choose base branches => do
    let base ← single (resolve inner p base)
    let branches ← resolveAll inner p branches
    (Expr.branchValues branches).forM fun v => known (Expr.collationOf base v)
    pure (.choose base branches)
  | .row items => do
    let items ← resolveAll inner p items
    pure (.row items)
  | .query q => do
    let q ← queryRef inner p q
    modify (List.map fun (m, s) => (m, if m == q.number then s.forFirstRow else s))
    pure (.query q)
  | .hasRows n => do
    let _ ← inner.columns p n
    modify (List.map fun (m, s) => (m, if m == n then s.forExistence else s))
    pure (.hasRows n)
  | .literal v => pure (.literal v)
  | .truth b => pure (.truth b)
  | .param i => pure (.param i)
  | .column c => pure (.column c)

def resolveAll (inner : Inner) (p : Place) : List Expr → Lookup (List Expr)
  | [] => pure []
  | e :: es => do
    let e ← single (resolve inner p e)
    let es ← resolveAll inner p es
    pure (e :: es)

def resolveRows (inner : Inner) (p : Place) : List Expr → Lookup (List Expr)
  | [] => pure []
  | e :: es => do
    let e ← resolve inner p e
    let es ← resolveRows inner p es
    pure (e :: es)

end

/-- An expression of one value that is no part of another one. -/
def whole (inner : Inner) (p : Place) (e : Expr) : Lookup Expr :=
  let depth := p.depth + e.height inner.height
  if maxHeight < depth then failure else single (resolve inner { p with depth } e)

end Place

end AuditSearch.Sql
