import AuditSearch.Sql.Plan.Clause

/-!
Routes through the rows of a table, with their estimated costs: all rows, the rows that an index finds for
some terms of a clause, and the rows of the branches of a term one after the other. The estimates suppose a
million rows, and ten rows for each value of the first column of an index.
-/
namespace AuditSearch.Sql

/-- A column that rows can be found by. -/
structure KeyColumn where
  column : Nat
  isRowId : Bool
  affinity : Option Affinity
  collation : Collation
  required : Bool
  deriving DecidableEq, Repr

/-- What rows can be found by: their ids, or an index, by its number. -/
structure Finder where
  index : Option Nat
  /-- The columns that rows are ordered by, row ids at last. -/
  columns : List KeyColumn
  /-- How many columns are of the index itself. -/
  width : Nat
  unique : Bool
  /-- How many rows there are for values of no column, of the first, and so on. -/
  estimates : List Cost
  /-- What an entry costs beside a row. -/
  entryCost : Cost
  /-- Whether entries are shorter than rows. -/
  isShort : Bool
  deriving Repr

inductive RouteKind where
  | rows
  | entries
  /-- Through rows that branches find. -/
  | branches
  /-- Through an index that is made for the purpose. -/
  | made
  deriving DecidableEq, Repr

structure Route where
  kind : RouteKind
  finder : Option Finder
  /-- The terms that it uses: one for each column that is looked up, and the ends of a range. -/
  terms : List Term
  lookUps : Nat
  fromBelow : Bool
  fromAbove : Bool
  isOneRow : Bool
  /-- Whether entries hold all columns that are asked for. -/
  isCovering : Bool
  /-- Whether it uses a term on a column that another term equates with its own. -/
  isTransitive : Bool
  /-- The number of the finder if its order may help. -/
  sort : Nat
  setup : Cost
  run : Cost
  out : Cost

/-- What rows are found for. -/
structure Goal where
  order : List OrderTerm
  /-- Whether the order only puts equal rows next to each other, whichever of its terms comes first. -/
  isGrouping : Bool
  /-- Whether groups that are found in that order need not be sorted again. -/
  keepsOrder : Bool
  /-- Whether equal results count once. -/
  isDistinct : Bool
  /-- The number of rows that are asked for, if it is written. -/
  limit : Option Cost
  /-- The columns that are asked for, and how many columns the result has. -/
  used : List Nat
  resultWidth : Nat
  /-- How often the rows are likely to be found. -/
  repeats : Cost
  indexing : Indexing

/-- What routes are looked for in. -/
structure Region where
  table : Table
  /-- The terms of the whole condition. -/
  clause : Clause
  goal : Goal
  isBranch : Bool

namespace Finder

def tableRows : Cost :=
  200

/-- What a column takes in a row, in units of four bytes. -/
def columnSize (c : TableColumn) : Nat :=
  match c.affinity with
  | some .text | some .blob => 5
  | _ => 1

def rowIdColumn (t : Table) : KeyColumn :=
  ⟨t.rowId, true, some .integer, .binary, true⟩

def ofRows (t : Table) : Finder :=
  ⟨none, [rowIdColumn t], 1, true, [tableRows, 0], 15, false⟩

def indexEstimates (width : Nat) (unique : Bool) : List Cost :=
  let each := (List.range width).map fun k =>
    if unique && k + 1 == width then 0 else [33, 32, 30, 28, 26].getD k 23
  tableRows :: each ++ [0]

def ofIndex (t : Table) (number : Nat) (i : Index) : Finder :=
  let columns := i.columns.map fun (c, collation) =>
    let column := t.columnAt c
    KeyColumn.mk c (c == t.rowId) column.affinity collation column.required
  let size := (i.columns.map fun (c, _) => columnSize (t.columnAt c)).foldl (· + ·) 1
  let rowSize := (t.columns.map columnSize).foldl (· + ·) (if t.rowId < t.columns.length then 0 else 1)
  let (entry, row) := (Cost.ofNat (4 * size), Cost.ofNat (4 * rowSize))
  ⟨some number, columns ++ [rowIdColumn t], i.columns.length, i.unique,
    indexEstimates i.columns.length i.unique, (15 * entry) / row, entry < row⟩

def ofTable (t : Table) (indexing : Indexing) : List Finder :=
  let indexes := t.indexes.zipIdx
  match indexing with
  | .any => ofRows t :: indexes.map fun (i, number) => ofIndex t number i
  | .nothing => [ofRows t]
  | .only name => (indexes.filter fun (i, _) => i.name == name).map fun (i, number) => ofIndex t number i

def covers (f : Finder) (column : Nat) : Bool :=
  f.columns.any fun c => c.column == column

def coversExpr (f : Finder) (e : Expr) : Bool :=
  e.namedColumns.all fun c => c.level != 0 || f.covers c.column

/-- Whether the order may help to answer in another order. -/
def helps (f : Finder) (order : List OrderTerm) : Bool :=
  order.any fun t =>
    match t.expr.core with
    | .column c | .fixed c _ =>
      c.level == 0 && (c.isRowId || (f.columns.take f.width).any fun k => k.column == c.column)
    | _ => false

end Finder

namespace Route

def isLimited (r : Route) : Bool :=
  decide (0 < r.lookUps) || r.fromBelow || r.fromAbove

def limits (r : Route) : List Limit :=
  (r.terms.take r.lookUps).filterMap Term.limit

/-- Whether one route uses some of the terms of another one, and is not more expensive in every way. -/
def isPartOf (r s : Route) : Bool :=
  decide (r.terms.length < s.terms.length) && !(decide (s.run < r.run) && decide (s.out < r.out)) &&
    (r.terms.all fun t => s.terms.any fun u => u.key == t.key) && (!r.isCovering || s.isCovering)

/-- The costs of a route next to those of others: with more terms it is no more expensive than without. -/
def adjusted (r : Route) (routes : List Route) : Route :=
  if r.kind != .entries then r
  else
    routes.foldl (fun r p =>
      if p.kind != .entries then r
      else if p.isPartOf r then { r with run := min p.run r.run, out := min (p.out - 1) r.out }
      else if r.isPartOf p then { r with run := max p.run r.run, out := max (p.out + 1) r.out }
      else r) r

/-- What becomes of a route that is known when another one is found. -/
inductive Verdict where
  | stays
  | isReplaced
  | isBetter

def verdict (known found : Route) : Verdict :=
  if known.sort != found.sort then .stays
  else if known.kind == .made && found.kind == .entries && found.limits.any Limit.isOne then .isReplaced
  else if known.setup ≤ found.setup && known.run ≤ found.run && known.out ≤ found.out then .isBetter
  else if found.run ≤ known.run && found.out ≤ known.out then .isReplaced
  else .stays

/-- Routes without those that another one replaces, up to one that is better than it. -/
def dropReplaced (found : Route) : List Route → List Route
  | [] => []
  | p :: ps =>
    match verdict p found with
    | .stays => p :: dropReplaced found ps
    | .isReplaced => dropReplaced found ps
    | .isBetter => p :: ps

def addTo (found : Route) : List Route → List Route
  | [] => [found]
  | p :: ps =>
    match verdict p found with
    | .stays => p :: addTo found ps
    | .isReplaced => found :: dropReplaced found ps
    | .isBetter => p :: ps

end Route

/-- The routes that have been found. -/
structure Routes where
  found : List Route
  /-- Whether routes of a branch are looked for, of which only the least costs count. -/
  isBranch : Bool
  /-- The least costs of a branch, and the least number of rows. -/
  least : Option (Cost × Cost)
  /-- How many routes may still be looked at. -/
  left : Nat

namespace Routes

def none : Routes :=
  ⟨[], false, .none, 21000⟩

def offer (b : Routes) (r : Route) : Routes :=
  if b.left = 0 then b
  else
    let b := { b with left := b.left - 1 }
    let r := r.adjusted b.found
    if b.isBranch then
      if r.terms.isEmpty then b
      else
        match b.least with
        | .none => { b with least := some (r.run, r.out) }
        | some (run, out) => if r.run ≤ run then { b with least := some (r.run, min out r.out) } else b
    else { b with found := r.addTo b.found }

end Routes

namespace Region

def affinityFits (t : Term) (own : Option Affinity) : Bool :=
  let compared : Affinity :=
    match t.expr with
    | .compare _ a b => .common a.affinity? b.affinity?
    | .among a _ => a.affinity?.getD .blob
    | .amongRows a q => .common a.affinity? q.columns.head?.join
    | _ => .blob
  match compared with
  | .blob => true
  | .text => own == some .text
  | _ => (own.map Affinity.isNumeric).getD false

/-- The column that a term equates its own with. -/
def equated? (t : Term) : Option ColumnRef :=
  if t.equates then Clause.freeColumn? t.right.core else none

/-- The columns that are equated with those in a list; there are eleven at most. -/
def equatedColumns (terms : List Term) : Nat → List Nat → Nat → List Nat
  | 0, columns, _ => columns
  | fuel + 1, columns, k =>
    match columns[k]? with
    | none => columns
    | some column =>
      let more := (terms.filter fun t => t.column == some column).filterMap equated?
      let columns := more.foldl (fun cs c =>
        if cs.contains c.column || 11 ≤ cs.length then cs else cs ++ [c.column]) columns
      equatedColumns terms fuel columns (k + 1)

/-- The terms that limit a column or one that is equated with it, and whether they limit the latter. Behind
the terms of a clause come those of the clauses around it. -/
def limiting (clauses : List Clause) (k : KeyColumn) (wanted : Limit → Bool) : List (Term × Bool) :=
  let terms := clauses.flatten
  let columns := equatedColumns terms 12 [k.column] 0
  columns.zipIdx.flatMap fun (column, i) =>
    (terms.filter fun t =>
      t.column == some column && ((t.limit.map wanted).getD false) &&
        (k.isRowId || t.limit == some .null ||
          (affinityFits t k.affinity && t.collation == some k.collation)) &&
        !((t.limit.map Limit.isOne).getD false &&
          t.right.rowColumn?.any fun c => c.column == k.column)).map fun t =>
      (t, decide (0 < i))

def rangeRows (rows : Cost) (below above : Option Term) : Cost :=
  let reduced (rows : Cost) (t : Option Term) : Cost :=
    match t with
    | none => rows
    | some t =>
      match t.odds with
      | some o => rows + o
      | none => if t.isNotNull then rows else rows - 20
  let least := reduced (reduced rows below) above
  let both := (below.map fun t => t.odds.isNone).getD false && (above.map fun t => t.odds.isNone).getD false
  let least := if both then least - 20 else least
  let rows := rows - (if below.isSome then 1 else 0) - (if above.isSome then 1 else 0)
  min rows (max least 10)

/-- Whether an expression is a written number from -1 to 1. -/
def isSmall (e : Expr) : Bool :=
  match e with
  | .literal (.integer n) | .apply .plain [.literal (.integer n)] | .apply .negate [.literal (.integer n)] =>
    decide (n.natAbs ≤ 1)
  | _ => false

def remaining (clause : Clause) (r : Route) (all : Cost) : Cost :=
  let tested := clause.zipIdx.filter fun (t, i) =>
    t.usesRow && !t.isDerived &&
      !r.terms.any fun u => u.key == t.key || u.parent == some i
  let out := tested.foldl (fun out (t, _) => out + t.odds.getD (-1)) r.out
  let reduction := tested.foldl (fun (k : Cost) (t, _) =>
    if t.odds.isNone && (t.limit.map Limit.isOne).getD false then max k (if isSmall t.right then 10 else 20)
    else k) 0
  min out (all - reduction)

/-- How many values a term lists, where the values of one query count once. -/
def listed (r : Route) (t : Term) : Cost :=
  let ofQuery := if r.terms.any fun u => u.part.isSome && u.parent == t.parent then 0 else 46
  match t.expr with
  | .amongRows _ _ => ofQuery
  | .among _ items => if t.part.isSome then ofQuery else Cost.ofNat items.length
  | _ => 0

/-- The route with a further term, which limits the next column of its finder, and how many values the term
lists. -/
def extended (clauses : List Clause) (f : Finder) (k : KeyColumn) (repeats : Cost) (r : Route) (t : Term)
    (isTransitive : Bool) : Route × Cost :=
  let limit := t.limit.getD .null
  let used := { r with terms := r.terms ++ [t], setup := 0 }
  if limit.isFromBelow then
    let top :=
      if t.isPatternEnd then clauses.flatten.find? fun u => u.key == t.key.dropLast ++ [t.place + 1]
      else none
    ({ used with terms := used.terms ++ top.toList, fromBelow := true, fromAbove := top.isSome,
                 out := rangeRows r.out (some t) top }, 0)
  else if limit.isFromAbove then
    let below := if r.fromBelow then r.terms.getLast? else none
    ({ used with fromAbove := true, out := rangeRows r.out below (some t) }, 0)
  else
    let values := if limit == .among then listed r t else 0
    let n := r.lookUps
    let isLast := repeats == 0 && n + 1 == f.width && limit.isOne
    let isOneRow := r.isOneRow || (limit.isOne && k.isRowId) || (isLast && f.unique)
    let out :=
      match t.odds, k.isRowId with
      | some o, false => r.out + o - values
      | _, _ =>
        r.out + f.estimates.getD (n + 1) 0 - f.estimates.getD n 0 + (if limit == .null then 10 else 0)
    ({ used with lookUps := n + 1, isOneRow, out,
                 isTransitive := r.isTransitive || (limit.isOne && isTransitive) }, values)

/-- The route with the cost of running it, where what is in front of it is repeated. -/
def costed (clause : Clause) (f : Finder) (repeats : Cost) (r : Route) : Route :=
  let scan := if f.index.isNone then r.out + 16 else r.out + 1 + f.entryCost
  let scan := Cost.plus (Cost.logarithm Finder.tableRows) scan
  let run := if r.isCovering || f.index.isNone then scan else Cost.plus scan (r.out + 16)
  let r := { r with run := run + repeats, out := r.out + repeats }
  { r with out := remaining clause r Finder.tableRows }

/-- Adds the routes that limit the next column of a finder, and further ones; `fuel` bounds the columns. -/
def addLimited (clauses : List Clause) (f : Finder) : Nat → Routes → Route → Cost → Routes
  | 0, b, _, _ => b
  | fuel + 1, b, r, repeats =>
    match f.columns[r.lookUps]? with
    | none => b
    | some k =>
      let wanted (l : Limit) : Bool := !r.fromBelow || l.isFromAbove
      (limiting clauses k wanted).foldl (fun b (t, isTransitive) =>
        if (t.limit == some .null || t.isNotNull) && k.required then b
        else if t.rightUsesRow || (t.isPatternEnd && t.limit == some .less) then b
        else
          let (s, values) := extended clauses f k repeats r t isTransitive
          let b := b.offer (costed (clauses.headD []) f (repeats + values) s)
          if s.fromAbove then b
          else
            let out := if s.fromBelow then r.out else s.out
            addLimited clauses f fuel b { s with out } (repeats + values)) b

def everything (f : Finder) (sort : Nat) (isCovering : Bool) : Route :=
  { kind := if f.index.isNone then .rows else .entries, finder := some f, terms := [], lookUps := 0,
    fromBelow := false, fromAbove := false, isOneRow := false, isCovering, isTransitive := false, sort,
    setup := 0, run := Finder.tableRows + 16, out := Finder.tableRows }

/-- The cost of going through an index: that of its entries, and that of looking up the rows. Terms at the
start that only need entries are tested in front of that. -/
def entriesCost (g : Region) (f : Finder) (isCovering : Bool) : Cost :=
  let entries := Finder.tableRows + 1 + f.entryCost
  if isCovering then entries
  else
    let tested := g.clause.takeWhile fun t => f.coversExpr t.expr
    Cost.plus entries <| tested.foldl (fun (lookUps : Cost) t =>
      match t.odds with
      | some o => lookUps + o
      | none => lookUps - 1 - (if (t.limit.map Limit.isOne).getD false then 19 else 0))
      (Finder.tableRows + 16)

def addMade (g : Region) (clause : Clause) (b : Routes) : Routes :=
  if b.isBranch || g.isBranch || g.goal.indexing != .any then b
  else
    clause.foldl (fun b t =>
      match t.column with
      | none => b
      | some c =>
        if t.rightUsesRow || c == g.table.rowId || !(t.limit.map Limit.isOne).getD false ||
            !affinityFits t (g.table.columnAt c).affinity then b
        else
          let size := Cost.logarithm Finder.tableRows
          b.offer { kind := .made, finder := none, terms := [t], lookUps := 1, fromBelow := false,
                    fromAbove := false, isOneRow := false, isCovering := false, isTransitive := false,
                    sort := 0, setup := size + Finder.tableRows + 28, run := Cost.plus size 43, out := 43 }) b

def addFinders (g : Region) (clauses : List Clause) (b : Routes) : Routes :=
  let clause := clauses.headD []
  let isForced := match g.goal.indexing with | .only _ => true | _ => false
  (Finder.ofTable g.table g.goal.indexing).zipIdx.foldl (fun b (f, number) =>
    let helps := f.helps g.goal.order
    let sort := if helps then number + 1 else 0
    let isCovering := f.index.isSome && g.goal.used.all f.covers
    let start := everything f sort isCovering
    let whole :=
      if f.index.isNone then [start]
      else if helps || isForced || (isCovering && f.isShort) then
        [{ start with run := entriesCost g f isCovering }]
      else []
    let b := whole.foldl (fun b r => b.offer { r with out := remaining clause r Finder.tableRows }) b
    addLimited clauses f (f.columns.length + 2) b start 0) (g.addMade clause b)

/-- Adds the routes through the branches of a term of which one has to be true; `fuel` bounds how deep they
are in each other. -/
def addBranches (g : Region) : Nat → List Clause → Routes → Routes
  | 0, _, b => b
  | fuel + 1, clauses, b =>
    let clause := clauses.headD []
    clause.foldl (fun b t =>
      if !t.isOr || !t.isIndexable then b
      else
        let branches := t.branches.filter fun u => u.isAnd || u.column.isSome
        let costs := branches.mapM fun u =>
          let inside := if u.isAnd then u.parts else [u]
          let sub : Routes := { b with isBranch := true, least := none }
          let sub := g.addFinders (inside :: clauses) sub
          (g.addBranches fuel (inside :: clauses) sub).least
        match costs with
        | some ((run, out) :: rest) =>
          let (run, out) := rest.foldl (fun (run, out) (more, rows) =>
            (Cost.plus run more, Cost.plus out rows)) (run, out)
          b.offer { kind := .branches, finder := none, terms := [t], lookUps := 0, fromBelow := false,
                    fromAbove := false, isOneRow := false, isCovering := false, isTransitive := false,
                    sort := 0, setup := 0, run := run + 1, out }
        | _ => b) b

def routes (g : Region) : List Route :=
  let b := g.addFinders [g.clause] .none
  let b := if g.clause.any Term.isIndexable then g.addBranches (maxHeight + 1) [g.clause] b else b
  b.found

end Region

end AuditSearch.Sql
