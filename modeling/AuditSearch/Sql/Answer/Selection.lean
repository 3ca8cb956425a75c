import AuditSearch.Sql.Answer.Block

/-!
The rows of a query: those of its blocks put together, in order, and as many as it asks for.
-/
namespace AuditSearch.Sql

namespace Run

def resultColumn (i : Nat) : Expr :=
  .column ⟨0, 0, i, none, false, false⟩

/-- What the rows of several blocks are compared by in a column: with the collation that one of the blocks has
there, the first one that has any. -/
def columnTerm (blocks : List Block) (i : Nat) : OrderTerm :=
  let deciding := blocks.findSome? fun b => b.results[i]?.bind fun e =>
    if (Expr.argumentCollation? e).isSome then some e else none
  match deciding.bind Expr.collation? with
  | some c => .ascending (.collate c (resultColumn i))
  | none => .ascending (resultColumn i)

/-- An order with the columns behind it that it does not mention. -/
def extended (byColumns order : List OrderTerm) : List OrderTerm :=
  let column? (t : OrderTerm) : Option Nat :=
    match t.expr.withoutCollation with
    | .column c => some c.column
    | _ => none
  order ++ byColumns.filter fun t => !order.any fun u => column? u == column? t

/-- The rows of which none agrees with a later one, in order. -/
def distinctRows (order : List OrderTerm) (rows : List Row) : List Row :=
  let agree (a b : Row) : Bool := OrderTerm.compareAll order a b == .eq
  let kept := rows.foldr (fun row kept => if kept.any (agree row) then kept else row :: kept) []
  kept.mergeSort fun a b => OrderTerm.compareAll order a b != .gt

/-- Puts the rows of two blocks together, which are compared in an order of all columns. -/
def combine (order : List OrderTerm) (op : SetOperator) (left right : Walk Row) : Walk Row :=
  let isIn (row : Row) (rows : List Row) : Bool :=
    rows.any fun other => OrderTerm.compareAll order row other == .eq
  let both (f : List Row → List Row → List Row) : Walk Row :=
    match left.all?, right.all? with
    | some xs, some ys => (f xs ys).map fun row => some (row.map Value.unmarked)
    | _, _ => [none]
  match op with
  | .unionAll => left ++ right
  | .union => both fun xs ys => distinctRows order (xs ++ ys)
  | .except => both fun xs ys => distinctRows order (xs.filter fun row => !isIn row ys)
  | .intersect => both fun xs ys => distinctRows order (xs.filter fun row => isIn row ys)

/-- Entries without those that agree with the one in front of them. -/
def fresh (order : List OrderTerm) : Option Entry → Walk Entry → Walk Entry
  | _, [] => []
  | _, none :: _ => [none]
  | last, some e :: w =>
    if last.any fun l => OrderTerm.compareAll order l.keys e.keys == .eq then fresh order last w
    else some e :: fresh order (some e) w

/-- Puts the entries of two blocks together that are in order. They are looked at one after the other, those on
the right as far as the ones on the left need it. -/
def merged (order : List OrderTerm) (op : SetOperator) : Walk Entry → Walk Entry → Walk Entry
  | [], right =>
    match op with
    | .except | .intersect => []
    | .union | .unionAll => right
  | none :: _, _ => [none]
  | some a :: left, [] => if op == .intersect then [] else some a :: left
  | some _ :: _, none :: _ => [none]
  | some a :: left, some b :: right =>
    match OrderTerm.compareAll order a.keys b.keys, op with
    | .lt, .intersect | .eq, .union | .eq, .except => merged order op left (some b :: right)
    | .lt, _ | .eq, _ => some a :: merged order op left (some b :: right)
    | .gt, .union | .gt, .unionAll => some b :: merged order op (some a :: left) right
    | .gt, _ => merged order op (some a :: left) right
termination_by left right => left.length + right.length

/-- Entries in order, if they are not yet. All are looked at before the first one, and marks are lost. -/
def sorted (order : List OrderTerm) (isOrdered : Bool) (w : Walk Entry) : Walk Entry :=
  if isOrdered then w
  else
    match w.all? with
    | none => [none]
    | some entries =>
      (Entry.sort order entries).map fun e => some { e with row := e.row.map Value.unmarked }

/-- An expression over the columns of a result as one over what these are in a block. -/
def overItems (results : List Expr) : Expr → Expr
  | .collate c e => .collate c (overItems results e)
  | .column c => results.getD c.column (.column c)
  | e => e

def armRows (r : Run) (env : Env) (order : List OrderTerm) (b : Block) : Walk Row :=
  let arranged (c : Block) : List OrderTerm := order.map fun t => { t with expr := overItems c.results t.expr }
  let (entries, isOrdered) :=
    if b.more.isEmpty then r.entries env b (arranged b) none 0
    else (b.writtenRows.flatMap fun c => (r.entries env c (arranged c) none 0).1, order.isEmpty)
  Walk.map (sorted (arranged b) isOrdered entries) Entry.row

def keyed (r : Run) (env : Env) (order : List OrderTerm) (w : Walk Row) : Walk Entry :=
  w.bind fun row =>
    [(r.valuesOf (.ofRows [row] :: env) (order.map OrderTerm.expr)).map fun keys => ⟨keys, row⟩]

/-- The orders that the blocks behind the first one are put to the others in: that of all, which operators other
than one that keeps all rows extend to all columns. -/
def mergeOrders (byColumns : List OrderTerm) (order : List OrderTerm) (ops : List SetOperator) :
    List (List OrderTerm) :=
  ops.foldr (fun op found =>
    let next := found.headD order
    (if op == .unionAll then next else extended byColumns next) :: found) []

def orderedEntries (r : Run) (env : Env) (s : Selection) (byColumns : List OrderTerm) : Walk Entry :=
  let orders := mergeOrders byColumns s.order (s.others.map (·.1))
  let arm (order : List OrderTerm) (b : Block) : Walk Entry := r.keyed env order (r.armRows env order b)
  (s.others.zip orders).foldl (fun left ((op, b), order) =>
    let left := r.keyed env order (Walk.map left Entry.row)
    let found := merged order op left (arm order b)
    if op == .unionAll then found else fresh order none found) (arm (orders.headD s.order) s.first)

def compoundEntries (r : Run) (env : Env) (s : Selection) : Walk Entry :=
  let byColumns := (List.range s.first.items.length).map (columnTerm s.blocks)
  if s.order.isEmpty then
    Walk.map (s.others.foldl (fun left (op, b) => combine byColumns op left (r.armRows env [] b))
      (r.armRows env [] s.first)) fun row => ⟨[], row⟩
  else r.orderedEntries env s byColumns

/-- The blocks of which all rows are found before the first one of all is known: those up to the last operator
that does not keep all rows, if no order is asked for. -/
def foundFirst (s : Selection) : Selection :=
  let others := (s.others.reverse.dropWhile fun (op, _) => op == .unionAll).reverse
  { s with others, order := [], limit := none, offset := none }

/-- The cost of as many rows as a written number asks for. -/
def writtenLimit? (e : Expr) : Option Cost :=
  match Expr.writtenNumber? e with
  | some n => if 0 < n then some (Cost.ofNat n.toNat) else none
  | none => none

/-- How many rows an expression asks for, none if it is missing. There is no answer if it is no integer. -/
def rowCount? (r : Run) (env : Env) : Option Expr → Option (Option Int)
  | none => some none
  | some e => (e.eval r.session r.rows env .value).bind fun v => v.rowCount?.map some

/-- The rows of a query behind some that are left out. -/
def rowsBehind (r : Run) (env : Env) (s : Selection) (skipped : Nat) : Walk Row :=
  if s.others.isEmpty then
    let (entries, isOrdered) := r.entries env s.first s.order (s.limit.bind writtenLimit?) skipped
    let left := if isOrdered && !s.first.distinct && s.first.more.isEmpty then 0 else skipped
    Walk.drop left (Walk.map (sorted s.order isOrdered entries) Entry.row)
  else Walk.drop skipped (Walk.map (r.compoundEntries env s) Entry.row)

/-- How many rows a query goes on from at most if it asks for no limit. -/
def maxUnfolded : Nat :=
  100000

/-- Puts entries behind those that do not come behind them. -/
def enqueued (order : List OrderTerm) (queue more : List Entry) : List Entry :=
  if order.isEmpty then queue ++ more
  else more.foldl (fun queue e =>
    let (front, rest) := queue.span fun f => OrderTerm.compareAll order f.keys e.keys != .gt
    front ++ e :: rest) queue

/-- The rows of a query that goes on from its own rows: each is taken from a queue, and those that blocks make of
it are put into the queue, if equal ones count, or were not there before. -/
def unfolded (r : Run) (env : Env) (order byColumns : List OrderTerm) (isDistinct : Bool) (blocks : List Block) :
    Nat → List Row → List Entry → Walk Row
  | 0, _, _ | _, _, [] => []
  | fuel + 1, seen, e :: queue =>
    let next := { r with current := e.row }
    let found := blocks.flatMap fun b => next.armRows env [] b
    match added seen found with
    | none => [some e.row, none]
    | some (seen, more) => some e.row :: unfolded r env order byColumns isDistinct blocks fuel seen (enqueued order queue more)
where
  /-- The rows that were there, and the entries of new ones. -/
  added (seen : List Row) (found : Walk Row) : Option (List Row × List Entry) := do
    let rows := (← found.all?).map fun row => row.map Value.unmarked
    let (seen, rows) :=
      if isDistinct then
        rows.foldl (fun (seen, kept) row =>
          if seen.any fun other => OrderTerm.compareAll byColumns row other == .eq then (seen, kept)
          else (row :: seen, kept ++ [row])) (seen, [])
      else (seen, rows)
    some (seen, ← (r.keyed env order (rows.map some)).all?)

def recursiveRows (r : Run) (env : Env) (s : Selection) (count : Nat) : Walk Row :=
  let (setup, more) := s.others.span fun (_, b) => !b.goesOn
  let byColumns := (List.range s.first.items.length).map (columnTerm s.blocks)
  let isDistinct := more.any fun (op, _) => op == .union
  let found := Walk.map (r.compoundEntries env { s with others := setup, order := [] }) Entry.row
  match unfolded.added r env s.order byColumns isDistinct [] found with
  | none => [none]
  | some (seen, first) =>
    r.unfolded env s.order byColumns isDistinct (more.map (·.2)) count seen (enqueued s.order [] first)

/-- The rows of a query. A negative number of rows is no limit. -/
def answer (r : Run) (env : Env) (s : Selection) : Walk Row :=
  match r.rowCount? env s.limit with
  | none => [none]
  | some limit =>
    if limit == some 0 then
      let early := foundFirst s
      if s.order.isEmpty && !early.others.isEmpty && !s.blocks.any Block.goesOn &&
          (r.compoundEntries env early).all?.isNone then [none]
      else []
    else
      match r.rowCount? env s.offset with
      | none => [none]
      | some offset =>
        let skipped := (offset.getD 0).toNat
        let rows :=
          if s.others.any fun (_, b) => b.goesOn then
            let wanted := match limit with | some n => if 0 ≤ n then skipped + n.toNat else maxUnfolded | none => maxUnfolded
            Walk.drop skipped (r.recursiveRows env s wanted)
          else r.rowsBehind env s skipped
        match limit with
        | some n => if 0 ≤ n then rows.take n.toNat else rows
        | none => rows

end Run

end AuditSearch.Sql
