import AuditSearch.Sql.Answer.Source

/-!
Calls over windows. The rows of a result are put into parts and ordered, once for all calls with the same
window; then each call has a value on each row, from the rows around it in its part.
-/
namespace AuditSearch.Sql

/-- A call over a window, taken apart. -/
structure WindowCall where
  call : Expr
  function : WindowFunction
  arguments : List Expr
  condition : List Expr
  parts : List OrderTerm
  order : List OrderTerm
  extent : Extent
  far : List Expr

/-- A row of a part, with what is known of it there. -/
structure WindowRow where
  /-- What it is ordered by. -/
  keys : List Value
  /-- How many groups of rows that agree in the order are in front of its own. -/
  group : Nat
  arguments : List Value
  isMet : Bool
  deriving Inhabited

namespace WindowCall

def ofExpr? : Expr → Option WindowCall
  | .call written shape es => do
    let w ← shape.window
    let function ← WindowFunction.named? (foldName written) shape.arguments
    let own := shape.windowOf es
    some
      { call := .call written shape es
        function
        arguments := shape.argumentsOf es
        condition := shape.conditionOf es
        parts := (w.partsOf own).map OrderTerm.ascending
        order := ((w.orderOf own).zip w.order).map fun (e, d) => OrderTerm.directed e d
        extent := w.rowsAround
        far := w.farEndsOf own }
  | _ => none

def sorting (c : WindowCall) : List OrderTerm :=
  c.parts ++ c.order

def sameTerms (xs ys : List OrderTerm) : Bool :=
  xs.length == ys.length &&
    (xs.zip ys).all fun (x, y) =>
      x.expr.same y.expr && x.descending == y.descending && x.nullsLast == y.nullsLast

/-- Whether the extent of a call matters. -/
def looksAround (c : WindowCall) : Bool :=
  match c.function with
  | .aggregate _ | .first | .last | .numbered => true
  | _ => false

def sharesWindow (c d : WindowCall) : Bool :=
  sameTerms c.parts d.parts && sameTerms c.order d.order &&
    (!c.looksAround && !d.looksAround && c.function == d.function ||
      c.looksAround && d.looksAround && c.extent == d.extent && Expr.allSame c.far d.far)

/-- How far the ends of an extent are away, from the values that say so. There is no answer if one of them is
no number from zero on, or has to be an integer and is none. -/
def distances? (c : WindowCall) (vs : List Value) : Option (List Value) :=
  vs.mapM fun v =>
    if c.extent.distance == .values then
      match v.toNumeric with
      | .integer n => if 0 ≤ n then some (.integer n) else none
      | .real r => if Value.compareAs .atLeast .binary .blob (.real r) (.integer 0) == some true then some (.real r) else none
      | _ => none
    else v.rowCount?.bind fun n => if 0 ≤ n then some (.integer n) else none

/-- The value so far away from another one; one that is no number stays. -/
def shifted (descending isBehind : Bool) (v far : Value) : Value :=
  match v with
  | .integer _ | .real _ => if descending == isBehind then v.subtract far else v.add far
  | v => v

/-- How row `j` lies to an end of the extent of row `i`: in front of it, on it, or behind it. -/
def place (c : WindowCall) (rows : Array WindowRow) (e : ExtentEnd) (far : Value) (i j : Nat) : Ordering :=
  let here := rows.getD i default
  let there := rows.getD j default
  let count := far.toInteger
  let byCount (x y : Nat) : Ordering :=
    match e with
    | .start => .gt
    | .before => Ord.compare ((x : Int) + count) y
    | .current => Ord.compare x y
    | .behind => Ord.compare (x : Int) (y + count)
    | .stop => .lt
  match c.extent.distance with
  | .rows => byCount j i
  | .groups => byCount there.group here.group
  | .values =>
    match c.order, e.isFar with
    | t :: _, true =>
      t.compare (there.keys.headD .null) (shifted t.descending (e == .behind) (here.keys.headD .null) far)
    | _, _ => byCount there.group here.group

/-- Whether row `j` is left out of the extent of row `i`. -/
def isExcluded (c : WindowCall) (rows : Array WindowRow) (i j : Nat) : Bool :=
  let agree := (rows.getD i default).group == (rows.getD j default).group
  match c.extent.exclusion with
  | .nothing => false
  | .current => i == j
  | .group => agree
  | .ties => agree && i != j

def around (c : WindowCall) (rows : Array WindowRow) (far : List Value) (i : Nat) : List Nat :=
  let first := if c.extent.first.isFar then far.headD .null else .null
  let last := if c.extent.last.isFar then far.getLastD .null else .null
  (List.range rows.size).filter fun j =>
    c.place rows c.extent.first first i j != .lt && c.place rows c.extent.last last i j != .gt &&
      !c.isExcluded rows i j

/-- Whether rows leave the extent again that have been in it: they are not looked at anew for each row then. -/
def isMoving (c : WindowCall) : Bool :=
  c.extent.first != .start && c.extent.exclusion == .nothing

/-- The value on the row of the number that each row up to it says. There is none if one of them says no number
of a row. -/
def numbered? (found : List WindowRow) : Option Value :=
  (found.zipIdx.foldlM (fun (v : Value) (r, i) => do
    let n ← (r.arguments.getD 1 .null).rowCount?
    if n ≤ 0 then none
    else some (if n = i + 1 then r.arguments.headD .null else v)) .null)

/-- The number that a row adds to a sum, if it meets the condition and has one. -/
def summand? (rows : Array WindowRow) (j : Nat) : Option Number :=
  let r := rows.getD j default
  if r.isMet then (r.arguments.headD .null).summand? else none

/-- A sum of the rows from `start` up to `stop`, of which the last one is not in it. -/
structure MovingSum where
  start : Nat
  stop : Nat
  sum : Sum

namespace MovingSum

def takeAwayTo (rows : Array WindowRow) (start : Nat) (m : MovingSum) : MovingSum :=
  let leaving := (List.range start).drop m.start
  { m with start := max start m.start, sum := (leaving.filterMap (summand? rows)).foldl Sum.takeAway m.sum }

/-- Adds the next row. Of more than `width` rows with it, the first one is taken away before that if it is in
front of `start`. -/
def addNext (rows : Array WindowRow) (width : Option Nat) (start : Nat) (m : MovingSum) : MovingSum :=
  let isFull := width.any fun w => w ≤ m.stop - m.start
  let m := if isFull && m.start < start then m.takeAwayTo rows (m.start + 1) else m
  { m with stop := m.stop + 1, sum := ((summand? rows m.stop).toList).foldl Sum.add m.sum }

/-- Moves on to the rows from `start` up to `stop`. Rows that leave are taken away first if that is told. -/
def moveTo (rows : Array WindowRow) (width : Option Nat) (leavesFirst : Bool) (start stop : Nat) (m : MovingSum) :
    MovingSum :=
  let m := if leavesFirst then m.takeAwayTo rows (min start m.stop) else m
  let m := (List.range (stop - m.stop)).foldl (fun m _ => m.addNext rows width start) m
  m.takeAwayTo rows (min start m.stop)

end MovingSum

/-- The sum over the extent of row `i`. Where rows leave the extent again it depends on the rows that have been in
it, and on the order in which they came and left. -/
def sumAround (c : WindowCall) (rows : Array WindowRow) (far : List Value) (i : Nat) : Sum :=
  if !c.isMoving then .ofNumbers ((c.around rows far i).filterMap (summand? rows))
  else
    let (first, last) := (far.headD .null, far.getLastD .null)
    let isBefore (k j : Nat) : Bool := c.place rows c.extent.first first k j == .lt
    let isBehind (k j : Nat) : Bool := c.place rows c.extent.last last k j == .gt
    let all := List.range rows.size
    let width :=
      if c.extent.distance == .rows && c.extent.last.isFar && c.extent.first.isFar then
        some (last.toInteger - first.toInteger + 1).toNat
      else none
    let leavesFirst := c.extent.distance != .values || !(c.extent.first == .behind || c.extent.last == .before)
    let moved := (List.range (i + 1)).foldl (fun (m : MovingSum) k =>
      let start := (all.filter (isBefore k)).length
      let stop := (all.filter fun j => !isBehind k j).length
      m.moveTo rows width leavesFirst start stop) ⟨0, 0, .empty⟩
    moved.sum

/-- The number of the part that row `i` is in, of `parts` parts of `size` rows. The greater ones come first. -/
def partNumber (size parts i : Nat) : Nat :=
  let each := size / parts
  if each = 0 then i + 1
  else
    let greater := size - parts * each
    let inGreater := greater * (each + 1)
    if i < inGreater then 1 + i / (each + 1) else 1 + greater + (i - inGreater) / each

/-- The value of a call on row `i` of a part. The least and the greatest value of an extent that rows leave
again are those of all its rows, whether they meet the condition or not. There is no value if the database
gives up. -/
def value? (c : WindowCall) (rows : Array WindowRow) (far : List Value) (i : Nat) : Option Value :=
  let here := rows.getD i default
  let argument (j : Nat) (k : Nat) : Value := (rows.getD j default).arguments.getD k .null
  let before := (rows.toList.filter fun r => r.group < here.group).length
  let upTo := (rows.toList.filter fun r => r.group ≤ here.group).length
  let share (x y : Nat) : Value :=
    .ofReal? ((Real.ofInt x).div? (.ofInt y))
  let away (step : Value → Value → Value) : Value :=
    match (step (.integer (i + 1)) (here.arguments.getD 1 (.integer 1))).rowCount? with
    | some n => if 1 ≤ n ∧ n ≤ rows.size then argument (n - 1).toNat 0 else argument i 2
    | none => argument i 2
  let ofPlace (j : Option Nat) : Value := (j.map fun j => argument j 0).getD .null
  match c.function with
  | .rowNumber => some (.integer (i + 1))
  | .rank => some (.integer (before + 1))
  | .denseRank => some (.integer (here.group + 1))
  | .percentRank => some (if rows.size ≤ 1 then .real (.ofInt 0) else share before (rows.size - 1))
  | .cumulativeShare => some (share upTo rows.size)
  | .partNumber =>
    let parts := (argument 0 0).toInteger
    if 0 < parts then some (.integer (partNumber rows.size parts.toNat i)) else none
  | .before => some (away Value.subtract)
  | .behind => some (away Value.add)
  | .first => some (ofPlace (c.around rows far i).head?)
  | .last => some (ofPlace (c.around rows far i).getLast?)
  | .numbered =>
    if c.extent.exclusion != .nothing then
      numbered? ((c.around rows far i).map fun j => rows.getD j default)
    else
      (argument i 1).rowCount?.bind fun n =>
        if 0 < n then some (ofPlace (c.around rows far i)[(n - 1).toNat]?) else none
  | .aggregate f =>
    let found := c.around rows far i
    let isMet (j : Nat) : Bool := (c.isMoving && f.compares) || (rows.getD j default).isMet
    let values := (found.filter isMet).map fun j => (rows.getD j default).arguments
    match f.ofSum? with
    | some value => value (c.sumAround rows far i)
    | none => f.apply ((Expr.argumentsCollation c.arguments).getD .binary) values

end WindowCall

namespace Run

def sortedFrames (r : Run) (env : Env) (order : List OrderTerm) (isOrdered : Bool) (frames : List Frame) :
    Option (List (List Value × Frame)) := do
  let keyed ← frames.mapM fun f =>
    (r.valuesOf (f :: env) (order.map OrderTerm.expr)).map fun keys => (keys, f)
  some (if isOrdered then keyed
    else keyed.mergeSort fun a b => OrderTerm.compareAll order a.1 b.1 != .gt)

/-- The rows of a part, from their frames with what these are ordered by. -/
def windowRows (r : Run) (env : Env) (c : WindowCall) (part : List (List Value × Frame)) :
    Option (List WindowRow) := do
  let groups := part.splitBy fun a b =>
    OrderTerm.compareAll c.order (a.1.drop c.parts.length) (b.1.drop c.parts.length) == .eq
  let found ← groups.zipIdx.mapM fun (group, k) =>
    group.mapM fun (keys, f) => do
      let arguments ← r.valuesOf (f :: env) c.arguments
      let condition ← r.valuesOf (f :: env) c.condition
      some ⟨keys.drop c.parts.length, k, arguments, condition.all fun v => v.truth == some true⟩
  some found.flatten

def windowValues (r : Run) (env : Env) (c : WindowCall) (part : List (List Value × Frame)) :
    Option (List Value) := do
  let rows := (← r.windowRows env c part).toArray
  let far ←
    if c.looksAround then do
      if !c.far.all Expr.isConstant then none
      let vs ← r.valuesOf env c.far
      c.distances? vs
    else some []
  (List.range rows.size).mapM (c.value? rows far)

def withValues (c : WindowCall) (part : List (List Value × Frame)) (vs : List Value) :
    List (List Value × Frame) :=
  (part.zip vs).map fun ((keys, f), v) => (keys, { f with overWindows := (c.call, v) :: f.overWindows })

def overWindow (r : Run) (env : Env) (calls : List WindowCall) (isOrdered : Bool) (frames : List Frame) :
    Option (List Frame) :=
  match calls with
  | [] => some frames
  | c :: _ => do
    let sorted ← r.sortedFrames env c.sorting isOrdered frames
    let parts := sorted.splitBy fun a b => OrderTerm.compareAll c.parts a.1 b.1 == .eq
    let found ← parts.mapM fun part =>
      calls.foldlM (fun part d => (r.windowValues env d part).map (withValues d part)) part
    some (found.flatten.map (·.2))

/-- Calls put together by their windows; those with the window of the first one come last. `fuel` bounds the
number of windows. -/
def windowGroups : Nat → List WindowCall → List (List WindowCall)
  | 0, _ => []
  | _, [] => []
  | fuel + 1, c :: cs =>
    let (own, others) := cs.partition c.sharesWindow
    windowGroups fuel others ++ [c :: own]

/-- The calls over windows in some expressions, by their windows. -/
def windowsOf (es : List Expr) : List (List WindowCall) :=
  let calls := ((Expr.allWindowCalls es).filterMap WindowCall.ofExpr?).foldl (fun done c =>
    if done.any fun d => d.call.same c.call then done else done ++ [c]) []
  windowGroups calls.length calls

/-- What rows are best found in the order of: that of the window that is gone over first. -/
def windowOrder (groups : List (List WindowCall)) : List OrderTerm :=
  ((groups.head?.bind List.head?).map WindowCall.sorting).getD []

def overWindows (r : Run) (env : Env) (groups : List (List WindowCall)) (isOrdered : Bool)
    (frames : List Frame) : Option (List Frame) :=
  match groups with
  | [] => some frames
  | first :: rest => do
    let frames ← r.overWindow env first isOrdered frames
    rest.foldlM (fun frames calls => r.overWindow env calls false frames) frames

end Run

end AuditSearch.Sql
