import AuditSearch.Sql.Answer.Window

/-!
The rows of a block: its members or groups of them, those with the same row once if that is asked for. A
group shows the columns of its first member, or of the one that has its least or its greatest value.
-/
namespace AuditSearch.Sql

namespace Block

/-- The order of groups, in the directions of an order of as many terms. -/
def groupOrder (b : Block) (order : List OrderTerm) : List OrderTerm :=
  if b.groups.length = order.length then
    (b.groups.zip order).map fun (e, t) => ⟨e, t.descending, t.descending⟩
  else b.groups.map OrderTerm.ascending

def isSortedByGroups (b : Block) (order : List OrderTerm) : Bool :=
  b.groups.length == order.length &&
    (b.groups.zip order).all fun (e, t) => e.same t.expr && t.nullsLast == t.descending

end Block

namespace Run

/-- The function whose value decides which member stands for a group: the least or the greatest value of
its argument, of which repeats may be left out. -/
structure Extreme where
  arg : Expr
  condition : List Expr
  collation : Collation
  /-- How the best value so far comes to a better one. -/
  wanted : Ordering
  distinct : Bool

namespace Extreme

/-- The function that decides, which is the last one that is called. -/
def ofExprs? (es : List Expr) : Option Extreme :=
  let ofCall (s : CallShape) (es : List Expr) (wanted : Ordering) : Option Extreme :=
    (s.argumentsOf es).head?.map fun a =>
      ⟨a, s.conditionOf es, (Expr.argumentsCollation [a]).getD .binary, wanted, s.form == .distinct⟩
  ((Expr.allAggregates es).filterMap fun
    | .aggregate .least s es => ofCall s es .gt
    | .aggregate .greatest s es => ofCall s es .lt
    | _ => none).getLast?

def isBetter (x : Extreme) (best v : Value) : Bool :=
  best == .null || (v != .null && Value.order? x.collation best v == some x.wanted)

/-- What is known while members are gone through. -/
structure Progress where
  best : Value
  found : Member
  /-- Whether the last value that was looked at was the best one. -/
  isBest : Bool
  seen : List Value

/-- Looks at one member; one with a value that is left out is treated as the one in front of it. -/
def next (x : Extreme) (p : Progress) (m : Member) (v : Value) : Progress :=
  if x.distinct && p.seen.any fun w => Value.orderNulls x.collation w v == .eq then
    if p.isBest then { p with found := m } else p
  else
    let isBest := x.isBetter p.best v
    let seen := v :: p.seen
    if isBest then ⟨v, m, true, seen⟩ else { p with isBest, seen }

end Extreme

/-- The member that stands for a group: the first one, if nothing else decides. -/
def representative (r : Run) (env : Env) (extreme : Option Extreme) : List Member → Option Member
  | [] => some []
  | m :: ms =>
    match extreme with
    | none => some m
    | some x => do
      let p ← (m :: ms).foldlM (fun (p : Extreme.Progress) m => do
        if ← r.allHold (.ofRows m :: env) x.condition then
          let v ← x.arg.eval r.session r.rows (.ofRows m :: env) .value
          some (x.next p m v)
        else some p) ⟨.null, m, true, []⟩
      some p.found

/-- The groups of members that have values in order. One that is followed by a member at which the database gives up
is not known. -/
def groupsOf (groupOrder : List OrderTerm) (keyed : Walk (List Value × Member)) : Walk (List Member) :=
  let known := (keyed.takeWhile Option.isSome).filterMap id
  let groups := (known.splitBy fun a b => OrderTerm.compareAll groupOrder a.1 b.1 == .eq).map (·.map (·.2))
  if known.length < keyed.length then groups.dropLast.map some ++ [none] else groups.map some

/-- The frames of groups, in the order of their values. If the members are not found in this order, all of them are
looked at before the first group is known. -/
def groupFrames (r : Run) (env : Env) (b : Block) (order : List OrderTerm) : Walk Frame :=
  let groupOrder := b.groupOrder order
  let found := r.members env b (r.goal b groupOrder true (b.isSortedByGroups order) false none)
  let keyed : Walk (List Value × Member) :=
    found.walk.bind fun m => [(r.valuesOf (.ofRows m :: env) b.groups).map fun keys => (keys, m)]
  let groups : Walk (List Member) :=
    match b.groups.isEmpty, found.isOrdered, keyed.all? with
    | false, true, _ => groupsOf groupOrder keyed
    | _, _, none => [none]
    | true, _, some keyed => [some (keyed.map (·.2))]
    | false, false, some keyed =>
      groupsOf groupOrder ((keyed.mergeSort fun a b => OrderTerm.compareAll groupOrder a.1 b.1 != .gt).map some)
  let extreme := Extreme.ofExprs? (b.results ++ order.map OrderTerm.expr ++ b.having.toList)
  groups.bind fun g => [(r.representative env extreme g).map fun m => ⟨m, g, []⟩]

/-- Whether a group is shown. All functions of its rows have values before that is known, also those that are not
looked at behind it. -/
def isShown (r : Run) (env : Env) (b : Block) (order : List OrderTerm) (f : Frame) : Option Bool := do
  (Expr.allAggregates (b.results ++ b.having.toList ++ order.map OrderTerm.expr)).forM fun e =>
    match e with
    | .aggregate _ s _ =>
      if s.level = 0 then (e.eval r.session r.rows (f :: env) .value).map fun _ => () else some ()
    | _ => some ()
  r.allHold (f :: env) b.having.toList

def entry (r : Run) (env : Env) (b : Block) (order : List OrderTerm) (f : Frame) : Option Entry := do
  let row ← Expr.evalAll r.session r.rows (f :: env) .marked b.results
  let keys ← r.valuesOf (f :: env) (order.map OrderTerm.expr)
  some ⟨keys, row⟩

def withoutRepeats (order : List OrderTerm) : List Row → Walk Entry → Walk Entry
  | _, [] => []
  | seen, none :: w => none :: withoutRepeats order seen w
  | seen, some e :: w =>
    if seen.any fun row => OrderTerm.compareAll order row e.row == .eq then withoutRepeats order seen w
    else some e :: withoutRepeats order (e.row :: seen) w

/-- What the members of a block without groups are found for. Results that count once are best found next to
each other. -/
def plainGoal (r : Run) (b : Block) (order : List OrderTerm) (limit : Option Cost) : Goal :=
  if b.distinct && order.isEmpty then r.goal b (b.results.map OrderTerm.ascending) true false true limit
  else r.goal b order false false b.distinct limit

/-- The frames of a block in front of windows, and whether they are in order. -/
def frames (r : Run) (env : Env) (b : Block) (order : List OrderTerm) (limit : Option Cost) :
    Walk Frame × Bool :=
  if b.isGrouped then
    (Walk.filter (r.groupFrames env b order) (r.isShown env b order), order.isEmpty)
  else
    let found := r.members env b (r.plainGoal b order limit)
    (found.walk.map Frame.ofRows, found.isOrdered || order.isEmpty)

/-- The frames of a block, and whether they are in order. Those that windows go over are all found first. -/
def framesOverWindows (r : Run) (env : Env) (b : Block) (order : List OrderTerm) (limit : Option Cost) :
    Walk Frame × Bool :=
  match windowsOf (b.results ++ order.map OrderTerm.expr) with
  | [] => r.frames env b order limit
  | groups =>
    let (found, isOrdered) := r.frames env { b with distinct := false } (windowOrder groups) none
    match found.all?.bind (r.overWindows env groups isOrdered) with
    | none => ([none], false)
    | some frames => (frames.map some, order.isEmpty)

/-- The entries of a block of one row or of sources, and whether they are in order. If they are, those at the
start that are to be left out are not computed. -/
def plainEntries (r : Run) (env : Env) (b : Block) (order : List OrderTerm) (limit : Option Cost)
    (skipped : Nat) : Walk Entry × Bool :=
  let (frames, isOrdered) := r.framesOverWindows env b order limit
  let frames := if isOrdered then Walk.drop skipped frames else frames
  let found := frames.bind fun f => [r.entry env b order f]
  (if b.distinct then withoutRepeats (b.results.map OrderTerm.ascending) [] found else found, isOrdered)

/-- The entries of a block, and whether they are in order. Of several rows that are written out with constants,
marks are lost. -/
def entries (r : Run) (env : Env) (b : Block) (order : List OrderTerm) (limit : Option Cost) (skipped : Nat) :
    Walk Entry × Bool :=
  if b.more.isEmpty then r.plainEntries env b order limit (if b.distinct then 0 else skipped)
  else
    let found := b.writtenRows.flatMap fun c => (r.plainEntries env c order none 0).1
    if Expr.areConstant (b.results ++ b.more.flatten) then
      (Walk.map found fun e => { e with row := e.row.map Value.unmarked }, order.isEmpty)
    else (found, order.isEmpty)

end Run

end AuditSearch.Sql
