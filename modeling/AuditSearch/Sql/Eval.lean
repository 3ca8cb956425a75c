import AuditSearch.Sql.Function.Aggregate
import AuditSearch.Sql.Order

/-!
Evaluation of expressions. A database may give up on a value, and whether it does depends on which parts
of an expression it looks at: where only the truth of an expression counts, a connective that its left
side decides leaves its right side alone.
-/
namespace AuditSearch.Sql

/-- What an expression is evaluated with beside rows. -/
structure Session where
  params : List Value
  counts : Counts
  relations : List Relation

/-- The rows that the columns of one query are taken from: one of each source, and those of its group. -/
structure Frame where
  rows : List Row
  group : List (List Row)
  /-- The values of calls over windows. -/
  overWindows : List (Expr × Value)

def Frame.ofRows (rows : List Row) : Frame :=
  ⟨rows, [], []⟩

/-- The frames of the queries around an expression, the innermost first. -/
abbrev Env :=
  List Frame

/-- Things that are found one after the other. The database may give up at one. -/
abbrev Walk (α : Type) :=
  List (Option α)

namespace Walk
variable {α β : Type}

/-- All things, if the database gives up at none. -/
def all? (w : Walk α) : Option (List α) :=
  w.mapM id

def first? : Walk α → Option (Option α)
  | [] => some none
  | none :: _ => none
  | some a :: _ => some (some a)

def bind (w : Walk α) (next : α → Walk β) : Walk β :=
  w.flatMap fun
    | none => [none]
    | some a => next a

def map (w : Walk α) (f : α → β) : Walk β :=
  List.map (Option.map f) w

/-- The things that pass a test, at which the database may give up. -/
def filter (w : Walk α) (test : α → Option Bool) : Walk α :=
  w.filterMap fun
    | none => some none
    | some a =>
      match test a with
      | none => some none
      | some true => some (some a)
      | some false => none

/-- Leaves out things at the start, none of which may be missing. -/
def drop : Nat → Walk α → Walk α
  | 0, w => w
  | _, [] => []
  | _, none :: _ => [none]
  | n + 1, some _ :: w => drop n w

end Walk

namespace Value

def stored (a : Option Affinity) (v : Value) : Value :=
  match a with
  | none | some .blob => v
  | some .text => v.toText
  | some .real =>
    match v.toNumeric with
    | integer n => real (.ofInt n)
    | v => v
  | some .numeric | some .integer =>
    match v.toNumeric with
    | real (.finite q) => if q.den = 1 && (Text.toInt64? q.num).isSome then integer q.num else real (.finite q)
    | v => v

/-- A literal as it is computed with: an integer of more than 64 bits is rounded. -/
def ofWritten : Value → Value
  | integer n => ofInt n
  | v => v

end Value

/-- Membership among values that are looked at one after the other, up to the one that is equal: unknown
for null, and where no item is equal but one is null. -/
def memberTruth? (equals : Value → Truth) : Truth → Walk Value → Option Truth
  | found, [] => some found
  | _, none :: _ => none
  | found, some y :: ys =>
    let t := equals y
    if t == some true then some t else memberTruth? equals (Truth.or found t) ys

namespace Expr

mutual

/-- Whether an expression has the same value wherever it is evaluated in a query, if some expressions have. -/
def isGivenBy (known : List Expr) (e : Expr) : Bool :=
  (known.any fun f => f.same e) ||
    match e with
    | literal _ | truth _ | param _ | fixed _ _ => true
    | apply (.routine r) args => r.isConstant && areGivenBy known args
    | apply _ args | coalesce args | cases args | row args => areGivenBy known args
    | compare _ a b | and a b | or a b => a.isGivenBy known && b.isGivenBy known
    | between a low high => a.isGivenBy known && low.isGivenBy known && high.isGivenBy known
    | among a items | choose a items => a.isGivenBy known && areGivenBy known items
    | not a | collate _ a => a.isGivenBy known
    | name _ | column _ | call _ _ _ | aggregate _ _ _ | amongRows _ _ | query _ | hasRows _ => false

def areGivenBy (known : List Expr) : List Expr → Bool
  | [] => true
  | e :: es => e.isGivenBy known && areGivenBy known es

end

/-- Whether an expression has the same value wherever it is evaluated in a query. -/
def isConstant (e : Expr) : Bool :=
  e.isGivenBy []

def areConstant (es : List Expr) : Bool :=
  areGivenBy [] es

mutual

/-- Whether an expression calls only functions that give the same result for the same arguments, and holds no
queries. -/
def isDeterministic : Expr → Bool
  | apply (.routine r) args => r.isConstant && areDeterministic args
  | apply _ args | coalesce args | cases args | row args | aggregate _ _ args | call _ _ args =>
    areDeterministic args
  | compare _ a b | and a b | or a b => a.isDeterministic && b.isDeterministic
  | between a low high => a.isDeterministic && low.isDeterministic && high.isDeterministic
  | among a items | choose a items => a.isDeterministic && areDeterministic items
  | not a | collate _ a | fixed _ a => a.isDeterministic
  | literal _ | truth _ | param _ | name _ | column _ => true
  | amongRows _ _ | query _ | hasRows _ => false

def areDeterministic : List Expr → Bool
  | [] => true
  | e :: es => e.isDeterministic && areDeterministic es

end

/-- Whether all items of a list are looked at before the value that may be among them. -/
def isTabled (items : List Expr) : Bool :=
  decide (2 < items.length) && areConstant items

/-- The truth that an expression is written as: a number, a word for it, or a connective with sides that are
written so. One side may be enough. -/
def writtenTruth? : Expr → Option Bool
  | literal (.integer n) =>
    if n = 0 then some false else if 0 < n ∧ n < 1 <<< 31 then some true else none
  | truth b => some b
  | and a b =>
    if a.writtenTruth? == some true || b.writtenTruth? == some false then b.writtenTruth?
    else if b.writtenTruth? == some true || a.writtenTruth? == some false then a.writtenTruth?
    else none
  | or a b =>
    if a.writtenTruth? == some true || b.writtenTruth? == some false then a.writtenTruth?
    else if b.writtenTruth? == some true || a.writtenTruth? == some false then b.writtenTruth?
    else none
  | _ => none

/-- The affinity and the collation of one side of a comparison. -/
structure Side where
  affinity : Option Affinity
  collation : Option String

/-- The sides that the values of an expression are. -/
def sides : Expr → List Side
  | row items => items.map fun e => ⟨e.affinity?, e.collation?⟩
  | query q => q.columns.map fun a => ⟨a, none⟩
  | e => [⟨e.affinity?, e.collation?⟩]

def Side.compare (op : Comparison) (a b : Side) (x y : Value) : Truth :=
  let c := ((a.collation.or b.collation).bind Collation.named?).getD .binary
  Value.compareAs op c (.common a.affinity b.affinity) x y

/-- Compares values for equality one after the other, up to the first that differ. -/
def equalRows? (op : Comparison) : Truth → List (Side × Side) → Walk Value → Walk Value → Option Truth
  | found, (a, b) :: sides, x :: xs, y :: ys => do
    let t := Truth.and found (a.compare op b (← x) (← y))
    if t == some false then some t else equalRows? op t sides xs ys
  | found, _, _, _ => some found

def orderedRows? (op strict : Comparison) : List (Side × Side) → Walk Value → Walk Value → Option Truth
  | [(a, b)], x :: _, y :: _ => do
    some (a.compare op b (← x) (← y))
  | (a, b) :: sides, x :: xs, y :: ys => do
    let x ← x
    let y ← y
    if a.compare .equal b x y == some true then orderedRows? op strict sides xs ys
    else some (a.compare strict b x y)
  | _, _, _ => some none

def compareRows? (op : Comparison) (a b : Expr) (xs ys : Walk Value) : Option Truth :=
  let sides := a.sides.zip b.sides
  match op with
  | .equal => equalRows? .equal (some true) sides xs ys
  | .notEqual => (equalRows? .equal (some true) sides xs ys).map Truth.not
  | .same => equalRows? .same (some true) sides xs ys
  | .notSame => (equalRows? .same (some true) sides xs ys).map Truth.not
  | .less => orderedRows? .less .less sides xs ys
  | .atMost => orderedRows? .atMost .less sides xs ys
  | .greater => orderedRows? .greater .greater sides xs ys
  | .atLeast => orderedRows? .atLeast .greater sides xs ys

/-- The value of a column in the frames around it. -/
def columnValue (env : Env) (c : ColumnRef) : Value :=
  (env[c.level]?.bind fun f => f.rows[c.source]?.bind fun r => r[c.column]?).getD .null

/-- The values of the first row of a query; they are null if there is none. -/
def firstRow (width : Nat) (found : Walk Row) : Walk Value :=
  match found.first? with
  | none => List.replicate width none
  | some none => List.replicate width (some .null)
  | some (some r) => r.map some

/-- What the value of an expression is wanted for. -/
inductive Use where
  | value
  /-- The value, where texts that are documents are marked. -/
  | marked
  /-- Whether it is true, where null counts as `nullAs`. -/
  | test (nullAs : Bool)
  deriving DecidableEq, Repr

namespace Use

/-- What the value of a part of an expression is wanted for, if it may be that of the whole. -/
def ofPart : Use → Use
  | marked => marked
  | value | test _ => value

def finish : Use → Value → Value
  | marked, v => v
  | value, v | test _, v => v.unmarked

end Use

end Expr

namespace Aggregate

/-- What the expressions of a call are wanted for. -/
def uses (f : Aggregate) (shape : CallShape) : List Expr.Use :=
  List.replicate shape.arguments (if f.seesDocuments then .marked else .value) ++
    List.replicate shape.order.length .value ++ [.test false]

/-- What a row adds to a call: its arguments and what they are ordered by, if the row meets the condition. -/
def added? (shape : CallShape) (found : Walk Value) : Option (Option (List Value × List Value)) := do
  let isMet ←
    match shape.conditionOf found with
    | [] => some true
    | c :: _ => c.map fun v => v.truth == some true
  if isMet then
    let args ← Walk.all? (shape.argumentsOf found)
    let keys ← Walk.all? (shape.orderOf found)
    some (some (args, keys))
  else some none

/-- Whether the one argument of a call is what its rows are ordered by. -/
def isOrderedByItself (shape : CallShape) (es : List Expr) : Bool :=
  match shape.argumentsOf es, shape.orderOf es with
  | [a], [e] => a.same e
  | _, _ => false

/-- The value of a call, from the values of its expressions on each row of a group. The least and the greatest
value do not depend on an order. Of equal arguments the first one counts, or the last one if the rows are ordered by
the argument alone. -/
def applyTo (f : Aggregate) (shape : CallShape) (es : List Expr) (found : List (Walk Value)) :
    Option Value := do
  let rows := (← found.mapM (added? shape)).filterMap id
  let c := (Expr.argumentsCollation (shape.argumentsOf es)).getD .binary
  let keepsLast := !f.compares && isOrderedByItself shape es
  let rows :=
    match shape.form, keepsLast with
    | .distinct, true => (Value.withoutRepeats c rows.reverse).reverse
    | .distinct, false => Value.withoutRepeats c rows
    | _, _ => rows
  let order := ((shape.orderOf es).zip shape.order).map fun (e, d) => OrderTerm.directed e d
  let rows :=
    if order.isEmpty || f.compares then rows
    else rows.mergeSort fun a b => OrderTerm.compareAll order a.2 b.2 != .gt
  f.apply c (rows.map (·.1))

end Aggregate

namespace Expr

/-- Whether a value is true, where null counts as `nullAs`. -/
def holdsAs (nullAs : Bool) (v : Option Value) : Option Bool :=
  v.map fun v => v.truth.getD nullAs

/-- The values of an expression, from its only value or from all. -/
def partsOf (e : Expr) (value : Option Value) (parts : Walk Value) : Walk Value :=
  if e.width = 1 then [value] else parts

mutual

/-- The value of an expression, where `rows` finds the rows of queries. There is none if the database
gives up. -/
def eval (s : Session) (rows : Nat → Env → Walk Row) (env : Env) (use : Use) : Expr → Option Value
  | literal v => some v.ofWritten
  | truth b => some (.ofTruth (some b))
  | param i => some (s.params.getD i .null)
  | name _ | row _ => none
  | call f shape args =>
    (env.head?.bind fun frame => frame.overWindows.find? fun (e, _) => e.same (call f shape args)).map
      fun (_, v) => use.finish v
  | column c => some (use.finish (columnValue env c))
  | fixed c a => (eval s rows env .value a).map (Value.stored c.affinity)
  | apply (.hasTruth wanted opposite) [a] =>
    match use with
    | .value | .marked => do
      let x ← eval s rows env .value a
      some (.ofTruth (some ((x.truth == some wanted) != opposite)))
    | .test _ => do
      -- Null is neither true nor false, so it counts as what is not asked for.
      let t ← holdsAs (!wanted) (eval s rows env (.test !wanted) a)
      some (.ofTruth (some ((t == wanted) != opposite)))
  | apply f args => do
    let vs ← evalAll s rows env (if f.seesDocuments then .marked else .value) args
    let v ← f.apply s.counts ((argumentsCollation args).getD .binary) vs
    some (use.finish v)
  | aggregate f shape args => do
    let group := (env[shape.level]?.map Frame.group).getD []
    let uses := f.uses shape
    let found := group.map fun member => evalEach s rows (env.set shape.level (.ofRows member)) uses args
    let v ← f.applyTo shape args found
    some (use.finish v)
  | compare op a b =>
    if a.width = 1 then do
      let x ← eval s rows env .value a
      let y ← eval s rows env .value b
      let c ← collationOf a b
      some (.ofTruth (Value.compareAs op c (.common a.affinity? b.affinity?) x y))
    else (compareRows? op a b (evalParts s rows env a) (evalParts s rows env b)).map Value.ofTruth
  | between a low high => do
    let xs := partsOf a (eval s rows env .value a) (evalParts s rows env a)
    let above ← compareRows? .atLeast a low xs
      (partsOf low (eval s rows env .value low) (evalParts s rows env low))
    -- Where only truth counts, the upper bound is not looked at once the lower one decides.
    if (match use with | .value | .marked => true | .test nullAs => above.getD nullAs) then
      let below ← compareRows? .atMost a high xs
        (partsOf high (eval s rows env .value high) (evalParts s rows env high))
      some (.ofTruth (Truth.and above below))
    else some (.ofTruth above)
  | among a items =>
    if a.width = 1 then do
      let x ← eval s rows env .value a
      let ys := evalEach s rows env [] items
      let c ← a.ownCollation
      let equals (y : Value) : Truth := Value.compareAs .equal c (a.affinity?.getD .blob) x y
      if isTabled items && ys.any Option.isNone then none
      else (memberTruth? equals (some false) ys).map Value.ofTruth
    else do
      let xs := evalParts s rows env a
      let _ ← xs.all?
      let ts ← (items.zip (evalRows s rows env items)).mapM fun (e, ys) => do
        let _ ← ys.all?
        compareRows? .equal a e xs ys
      some (.ofTruth (Truth.any ts))
  | amongRows a q => do
    let found ← (rows q.number env).all?
    let xs := partsOf a (eval s rows env .value a) (evalParts s rows env a)
    let _ ← xs.all?
    let ts ← found.mapM fun r => compareRows? .equal a (query q) xs (r.map some)
    some (.ofTruth (Truth.any ts))
  | not a =>
    match use with
    | .value | .marked => do
      let x ← eval s rows env .value a
      some (.ofTruth (Truth.not x.truth))
    | .test nullAs => do
      let t ← holdsAs (!nullAs) (eval s rows env (.test !nullAs) a)
      some (.ofTruth (some !t))
  | and a b =>
    match use with
    | .value | .marked => do
      let x ← eval s rows env .value a
      let y ← eval s rows env .value b
      some (.ofTruth (Truth.and x.truth y.truth))
    | .test nullAs =>
      -- A side that is written as a truth value leaves the other one alone, whichever comes first.
      if a.writtenTruth? == some true || b.writtenTruth? == some false then eval s rows env use b
      else if b.writtenTruth? == some true || a.writtenTruth? == some false then eval s rows env use a
      else do
        if ← holdsAs nullAs (eval s rows env use a) then eval s rows env use b
        else some (.ofTruth (some false))
  | or a b =>
    match use with
    | .value | .marked => do
      let x ← eval s rows env .value a
      let y ← eval s rows env .value b
      some (.ofTruth (Truth.or x.truth y.truth))
    | .test nullAs =>
      if a.writtenTruth? == some true || b.writtenTruth? == some false then eval s rows env use a
      else if b.writtenTruth? == some true || a.writtenTruth? == some false then eval s rows env use b
      else do
        if ← holdsAs nullAs (eval s rows env use a) then some (.ofTruth (some true))
        else eval s rows env use b
  | collate _ a => eval s rows env use.ofPart a
  | coalesce args => evalFirst s rows env use.ofPart args
  | cases branches => evalCases s rows env use.ofPart branches
  | choose base branches => do
    let x ← eval s rows env .value base
    evalChoice s rows env use.ofPart base x branches
  | query q => ((firstRow 1 (rows q.number env)).headD none).map use.finish
  | hasRows n => do
    let found ← (rows n env).first?
    some (.ofTruth (some found.isSome))

def evalAll (s : Session) (rows : Nat → Env → Walk Row) (env : Env) (use : Use) :
    List Expr → Option (List Value)
  | [] => some []
  | e :: es => do
    let v ← eval s rows env use e
    let vs ← evalAll s rows env use es
    some (v :: vs)

/-- The values of some expressions one after the other, each as it is wanted; those of which nothing is said
are wanted as values. -/
def evalEach (s : Session) (rows : Nat → Env → Walk Row) (env : Env) : List Use → List Expr → Walk Value
  | _, [] => []
  | [], e :: es => eval s rows env .value e :: evalEach s rows env [] es
  | use :: uses, e :: es => eval s rows env use e :: evalEach s rows env uses es

def evalParts (s : Session) (rows : Nat → Env → Walk Row) (env : Env) : Expr → Walk Value
  | row items => evalEach s rows env [] items
  | query q => firstRow q.columns.length (rows q.number env)
  | _ => []

def evalRows (s : Session) (rows : Nat → Env → Walk Row) (env : Env) : List Expr → List (Walk Value)
  | [] => []
  | e :: es =>
    partsOf e (eval s rows env .value e) (evalParts s rows env e) :: evalRows s rows env es

/-- The first value that is not null; those behind it are not computed. -/
def evalFirst (s : Session) (rows : Nat → Env → Walk Row) (env : Env) (use : Use) : List Expr → Option Value
  | [] => some .null
  | e :: es => do
    let v ← eval s rows env use e
    if v == .null then evalFirst s rows env use es else some v

/-- The result of the first condition that holds, of which only those in front of it are tested too. -/
def evalCases (s : Session) (rows : Nat → Env → Walk Row) (env : Env) (use : Use) : List Expr → Option Value
  | [] => some .null
  | [e] => eval s rows env use e
  | condition :: result :: rest => do
    if ← holdsAs false (eval s rows env (.test false) condition) then eval s rows env use result
    else evalCases s rows env use rest

def evalChoice (s : Session) (rows : Nat → Env → Walk Row) (env : Env) (use : Use) (base : Expr) (x : Value) :
    List Expr → Option Value
  | [] => some .null
  | [e] => eval s rows env use e
  | value :: result :: rest => do
    let y ← eval s rows env .value value
    let c ← collationOf base value
    if Value.compareAs .equal c (.common base.affinity? value.affinity?) x y == some true then
      eval s rows env use result
    else evalChoice s rows env use base x rest

end

/-- Whether an expression is known to be true. A connective that its left side decides does not test its
right side, and one with a side that is written out does not test that side. -/
def holds (s : Session) (rows : Nat → Env → Walk Row) (env : Env) (e : Expr) : Option Bool :=
  holdsAs false (eval s rows env (.test false) e)

end Expr

end AuditSearch.Sql
