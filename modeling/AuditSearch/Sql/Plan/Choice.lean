import AuditSearch.Sql.Plan.Route

/-!
The choice of a route: that of the least cost. A route may save sorting the rows that it finds.
-/
namespace AuditSearch.Sql

/-- A route that is taken from its start or from its end. -/
structure Choice where
  route : Route
  isReversed : Bool
  isOrdered : Bool
  /-- Whether nulls of the first column that is not looked up are on the other side. -/
  movesNulls : Bool

namespace Choice

/-- Which parts of an order a route satisfies. -/
structure Progress where
  satisfied : List Bool
  /-- Whether rows are gone through from the end, if that is known. -/
  direction : Option Bool
  /-- Whether no two rows agree on what they are ordered by so far. -/
  isDistinct : Bool
  /-- Whether row ids are among that. -/
  hasRowId : Bool
  /-- Whether nulls are to be on the other side. -/
  movesNulls : Bool

/-- What is known of an order and a route. -/
structure Fit where
  /-- How many parts at the start of the order are satisfied, none if that does not matter. -/
  sorted : Option Nat
  isReversed : Bool
  movesNulls : Bool

def orderColumn? (t : OrderTerm) : Option ColumnRef :=
  t.expr.core.rowColumn?

/-- The term that leaves one value of a column, or some values, for the purpose of an order. -/
def deciding? (g : Region) (r : Route) (withLists : Bool) (c : ColumnRef) : Option Term := do
  let wanted (l : Limit) : Bool := l.isOne || l == .null || (withLists && l == .among)
  let k : KeyColumn := ⟨c.column, true, none, .binary, true⟩
  let found := ((Region.limiting [g.clause] k wanted).map (·.1)).filter fun t => !t.rightUsesRow
  let t ← (found.find? fun t => (t.limit.map Limit.isOne).getD false).or found.head?
  if t.limit == some .among && !(r.terms.any fun u => u.key == t.key) then none else some t

def isDecided (g : Region) (r : Route) (withLists : Bool) (t : OrderTerm) : Bool :=
  match orderColumn? t with
  | none => false
  | some c =>
    match deciding? g r withLists c with
    | none => false
    | some u =>
      !(u.limit.map Limit.isOne).getD false || c.isRowId || u.collation == t.expr.ownCollation

/-- The first part of an order that is not satisfied, or in groups any, if a column decides it. -/
def matching? (g : Region) (p : Progress) (k : KeyColumn) : Option (Nat × OrderTerm) :=
  let missing := (g.goal.order.zipIdx.zip p.satisfied).filterMap fun ((t, i), done) =>
    if done then none else some (i, t)
  let candidates := if g.goal.isGrouping then missing else missing.take 1
  candidates.find? fun (_, t) =>
    ((orderColumn? t).any fun c => c.column == k.column) &&
      (k.isRowId || t.expr.ownCollation == some k.collation)

/-- What a further column of a route adds, and whether the columns behind it may add more. -/
def advance (g : Region) (r : Route) (width : Nat) (withLists : Bool) (p : Progress) (k : KeyColumn)
    (j : Nat) : Progress × Bool :=
  let limit := if j < r.lookUps then (r.terms[j]?.bind Term.limit) else none
  let isSkipped := (limit.map fun l => l.isOne || l == .null || (withLists && l == .among)).getD false
  if isSkipped then
    ({ p with isDistinct := p.isDistinct && limit != some .null && limit != some .same }, true)
  else
    let p := { p with isDistinct := p.isDistinct && (k.isRowId || decide (j < r.lookUps) || k.required) }
    let sharesRow := (r.terms[j]?.any fun t => t.part.isSome &&
      ((r.terms.take r.lookUps).drop (j + 1)).any fun u => u.parent == t.parent)
    match if sharesRow then none else matching? g p k with
    | some (i, t) =>
      let fits := g.goal.isGrouping || p.direction.isNone || p.direction == some t.descending
      let fits := fits && (t.nullsLast == t.descending || j == r.lookUps)
      if fits then
        ({ p with satisfied := p.satisfied.set i true, hasRowId := p.hasRowId || k.isRowId,
                  movesNulls := p.movesNulls || t.nullsLast != t.descending,
                  direction := if g.goal.isGrouping then p.direction else some t.descending }, true)
      else
        ({ p with isDistinct := p.isDistinct && !(j == 0 || decide (j < width)),
                  direction := p.direction.or (some t.descending) }, false)
    | none => ({ p with isDistinct := p.isDistinct && !(j == 0 || decide (j < width)) }, false)

def advanceAll (g : Region) (r : Route) (width : Nat) (withLists : Bool) :
    Progress → List (KeyColumn × Nat) → Progress
  | p, [] => p
  | p, (k, j) :: rest =>
    let (p, more) := advance g r width withLists p k j
    if more then advanceAll g r width withLists p rest else p

def fit (g : Region) (r : Route) (withLists : Bool) : Fit :=
  let start := g.goal.order.map (isDecided g r withLists)
  let count := g.goal.order.length
  let p : Progress := ⟨start, none, true, false, false⟩
  let walked : Option Progress :=
    if r.isOneRow then some p
    else
      match r.kind, r.finder with
      | .rows, some f => some (advanceAll g r 0 withLists p (f.columns.zipIdx))
      | .entries, some f =>
        some (advanceAll g r f.width withLists { p with isDistinct := f.unique } (f.columns.zipIdx))
      | _, _ => none
  match walked with
  | none => ⟨some 0, false, false⟩
  | some p =>
    let isDistinct := p.isDistinct || p.hasRowId
    let done :=
      if isDistinct then
        (p.satisfied.zip g.goal.order).map fun (done, t) =>
          done || !t.expr.namedColumns.isEmpty || t.expr.isConstant
      else p.satisfied
    let isReversed := p.direction.getD false
    if done.all id then ⟨some count, isReversed, p.movesNulls⟩
    else if isDistinct then ⟨none, isReversed, p.movesNulls⟩
    else
      let prefixes := ((List.range count).reverse.filter fun i => 0 < i && (done.take i).all id)
      ⟨some (prefixes.headD 0), isReversed, p.movesNulls⟩

def sortingCost (g : Region) (rows : Cost) (sorted : Nat) : Cost :=
  let count := g.goal.order.length
  let cost := rows + Cost.ofNat ((g.goal.resultWidth + 59) / 30)
  let cost := if 0 < sorted then cost + Cost.ofNat ((count - sorted) * 100 / count) - 66 else cost
  match g.goal.limit with
  | some limit => cost + 10 + (if 0 < sorted then 6 else 0) + Cost.logarithm (min limit rows)
  | none => cost + Cost.logarithm (if g.goal.isDistinct && decide (10 < rows) then rows - 10 else rows)

/-- A route with its costs: with sorting, and without. -/
structure Candidate where
  choice : Choice
  cost : Cost
  unsorted : Cost

/-- The route as a candidate, where so many rows are to be sorted; none are sorted at first. -/
def candidate (g : Region) (rows : Option Cost) (r : Route) : Candidate :=
  let run := r.run + g.goal.repeats
  match rows with
  | none => ⟨⟨r, false, false, false⟩, run, run - 2⟩
  | some rows =>
    let f := fit g r false
    let c : Choice := ⟨r, f.isReversed, f.sorted == some g.goal.order.length, f.movesNulls⟩
    match f.sorted with
    | some n =>
      if n < g.goal.order.length then ⟨c, Cost.plus run (sortingCost g rows n) + 3, run⟩
      else ⟨c, run, run - 2⟩
    | none => ⟨c, run, run - 2⟩

def isNoBetter (best c : Candidate) : Bool :=
  decide (best.cost < c.cost) ||
    (best.cost == c.cost &&
      (decide (best.choice.route.out < c.choice.route.out) ||
        (best.choice.route.out == c.choice.route.out && decide (best.unsorted ≤ c.unsorted))))

def best? (g : Region) (rows : Option Cost) (routes : List Route) : Option Choice :=
  let usable := routes.filter fun r => r.kind != .made
  let found := (usable.map (candidate g rows)).foldl (fun (best : Option Candidate) c =>
    match best with
    | none => some c
    | some b => if isNoBetter b c then some b else some c) none
  found.map Candidate.choice

/-- The route to the row of one id, or to that of a unique index, if a term looks it up. -/
def oneRow? (g : Region) : Option Route :=
  if g.isBranch || g.goal.indexing != .any then none
  else
    let look (k : KeyColumn) (wanted : Limit → Bool) : Option (Term × Bool) :=
      (Region.limiting [g.clause] k wanted).find? fun (t, _) => !t.rightUsesRow
    let route (f : Finder) (kind : RouteKind) (found : List (Term × Bool)) : Route :=
      { kind, finder := some f, terms := found.map (·.1), lookUps := found.length, fromBelow := false,
        fromAbove := false, isOneRow := true, isCovering := g.goal.used.all f.covers,
        isTransitive := (found.getLast?.map (·.2)).getD false, sort := 0, setup := 0, run := 33, out := 1 }
    match look (Finder.rowIdColumn g.table) Limit.isOne with
    | some found => some (route (.ofRows g.table) .rows [found])
    | none =>
      ((Finder.ofTable g.table .any).filter fun f => f.index.isSome && f.unique).findSome? fun f =>
        let keys := f.columns.take f.width
        let wanted (l : Limit) : Bool := if keys.all KeyColumn.required then l.isOne else l == .equal
        (keys.mapM fun k => look k wanted).map (route f .entries)

/-- A choice that puts rows into groups, in the direction in which the groups are in order, if it can be. -/
def inOrderOfGroups (g : Region) (c : Choice) : Choice :=
  if g.goal.isGrouping && g.goal.keepsOrder && c.isOrdered then
    let f := fit { g with goal := { g.goal with isGrouping := false } } c.route false
    if f.sorted == some g.goal.order.length then { c with isReversed := f.isReversed } else c
  else c

def ofRegion (g : Region) : Option Choice :=
  match oneRow? g with
  | some r => some ⟨r, false, true, false⟩
  | none =>
    let routes := g.routes
    match best? g none routes with
    | none => none
    | some first =>
      if g.goal.order.isEmpty then some { first with isOrdered := true }
      else
        let routes :=
          if 0 < first.route.lookUps then routes.filter fun r => r.isLimited || r.kind == .made else routes
        let out := first.route.out + g.goal.repeats
        let rows := if out < 0 then 1 else out + 1
        (best? g (some rows) routes).map fun c =>
          let r := c.route
          let isListed := r.kind == .rows && r.limits.contains .among
          let f := fit g r true
          if (c.isOrdered || decide (0 < ((fit g r false).sorted.getD 0))) || r.isOneRow || isListed ||
              g.goal.isGrouping then inOrderOfGroups g c
          else if f.sorted == some g.goal.order.length then
            { c with isReversed := f.isReversed, movesNulls := f.movesNulls }
          else c

end Choice

end AuditSearch.Sql
