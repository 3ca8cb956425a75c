import AuditSearch.Sql.Eval
import AuditSearch.Sql.Scope

/-!
Statements whose names have been looked up: a query, and the queries in it. Names of columns stand for
columns of the sources, stars for all of them, and numbers in an order for columns of the result.
-/
namespace AuditSearch.Sql

structure Statement where
  /-- The queries in the main one, by their numbers. -/
  queries : List (Nat × Selection)
  main : Selection

namespace Statement

def query? (s : Statement) (n : Nat) : Option Selection :=
  s.queries.lookup n

end Statement

namespace Place

def renamed (d : Definition) (columns : List TableColumn) : Lookup (List TableColumn) :=
  if d.columns.isEmpty then pure columns
  else if d.columns.length = columns.length then
    pure ((columns.zip d.columns).map fun (c, name) => { c with name })
  else failure

/-- What the name of a source stands for: a row that the block goes on from, a query that has been defined, a
table, or a function that is called without anything. -/
def namedOrigin (tables : List Table) (inner : Inner) (outer : Place) (written : String)
    (schema : Option String) : Lookup (Origin × Shape) :=
  let name := foldName written
  let isPlain := schema.isNone
  match outer.current.filter fun c => isPlain && c.1 == name, if isPlain then defined? name outer.definitions else none with
  | some (_, columns), _ => pure (.current, .ofColumns name columns)
  | none, some (d, definitions) => do
    if outer.opened.contains d.query then failure
    let place := { outer.inside with definitions, opened := d.query :: outer.opened, own := some d }
    let columns ← inner.columns place d.query
    let columns ← renamed d columns
    pure (.query d.query, .ofColumns name columns)
  | none, none =>
    let schema' := schema.map fun s => Schema.named? (foldName s)
    let table := if schema' == some none then none else tables.find? fun t => t.isCalled schema'.join name
    match table, RowFunction.named? name with
    | some t, _ => pure (.table t.name schema, .ofTable t)
    | none, some f => pure (.function f [], .ofFunction f)
    | none, none => failure

def hasIndex (tables : List Table) (indexing : Indexing) (origin : Origin) : Bool :=
  match indexing, origin with
  | .only name, .table table _ =>
    tables.any fun t => t.name == table && t.indexes.any fun i => i.name == name
  | .only _, _ => false
  | _, _ => true

def source (tables : List Table) (inner : Inner) (outer : Place) (s : Source) : Lookup (Source × Shape) := do
  let (origin, shape) ←
    match s.origin with
    | .table written schema => namedOrigin tables inner outer written schema
    | .call written args => do
      let name := foldName written
      let f ← StateT.lift (RowFunction.named? name)
      if f.parameters.length < args.length || (defined? name outer.definitions).isSome then failure
      else pure (.function f args, .ofFunction f)
    | .query n => do
      let columns ← inner.columns outer.inside n
      pure (s.origin, .ofColumns "" columns)
    | .function f _ => pure (s.origin, .ofFunction f)
    | .current => failure
  if !hasIndex tables s.indexing origin then failure
  let shape :=
    match s.label with
    | some name => { shape with name := foldName name, otherNames := [], innerNames := [] }
    | none => shape
  pure ({ s with origin }, { shape with join := s.join })

/-- The names of the columns in which rows of a source agree with those of the sources in front of it, which are
those that both have. -/
def sharedNames (before : List Shape) (s : Shape) : Lookup (List String) :=
  let isIn (name : String) : Bool := before.any fun b => (b.column? name).isSome
  match s.join.shared with
  | .nothing => pure []
  | .all => pure ((s.shownColumns.map TableColumn.name).filter isIn)
  | .columns names => if names.all fun n => (s.column? n).isSome && isIn n then pure names else failure

/-- The sources as names refer to them. Their columns may be null where rows are kept that have no partner. -/
def shapes (found : List Shape) : Lookup (List Shape) :=
  found.zipIdx.mapM fun (s, i) => do
    let shared ← sharedNames (found.take i) s
    let mayBeMissing := s.join.keepsLeft || (found.drop (i + 1)).any fun t => t.join.keepsRight
    let columns := if mayBeMissing then s.columns.map fun c => { c with required := false } else s.columns
    pure { s with shared, columns }

/-- The equation of a shared column with those in front of it. If rows of later sources are kept, all in front
count, of which only the first need not be shared. -/
def sharedEquation (found : List Shape) (i : Nat) (s : Shape) (name : String) : Lookup Expr := do
  let columns := (found.take i).zipIdx.filterMap fun (b, k) =>
    (b.column? name).map fun c => (b, b.ref 0 k c)
  let keepsRight := found.any fun t => t.join.keepsRight
  if keepsRight && (columns.drop 1).any fun (b, _) => !b.shared.contains name then failure
  let left := if keepsRight then columns else columns.take 1
  let right ← StateT.lift (s.column? name)
  pure (.compare .equal (Scope.first (left.map (·.2))) (.column (s.ref 0 i right)))

/-- The condition under which rows of a source are partners, from that which is written and the columns that
are shared. -/
def partnerCondition (found : List Shape) (i : Nat) (written : Option Expr) : Lookup (Option Expr) := do
  match found[i]? with
  | none => pure written
  | some s =>
    let equations ← s.shared.mapM (sharedEquation found i s)
    pure (equations.foldl (fun done e => some ((done.map fun d => .and d e).getD e)) written)

/-- The columns of a source, aside of those with some names, as items of a result. If rows of a later source are
kept, a column in which rows of later sources agree with it stands for what its name means, which has to be one
thing. -/
def columnItems (s : Scope) (aside : List String) (i : Nat) (shape : Shape) :
    Lookup (List (Expr × String)) :=
  let behind := s.sources.drop (i + 1)
  let keepsRight := behind.any fun t => t.join.keepsRight
  (shape.shownColumns.zipIdx.filter fun (c, _) => !aside.contains c.name).mapM fun (c, j) =>
    if keepsRight && behind.any fun t => t.shared.contains c.name then
      match s.meanings 0 ⟨[], c.name, .bare⟩ with
      | [meant] => pure (meant, c.name)
      | _ => failure
    else pure (.column (shape.ref 0 i j), c.name)

/-- The name of an item that has none of its own. -/
def itemName (s : Scope) : Expr → String
  | .column c =>
    ((s.sources[c.source]?.bind fun shape => shape.columns[c.column]?).map TableColumn.name).getD "rowid"
  | _ => ""

/-- The columns of all sources as items of a result, those once that rows agree in. -/
def allItems (s : Scope) : Lookup (List (Expr × String)) := do
  let found ← s.sources.zipIdx.mapM fun (shape, i) => columnItems s shape.shared i shape
  pure found.flatten

def items (inner : Inner) (p : Place) (s : Scope) : Item → Lookup (List (Expr × String))
  | .all =>
    if s.sources.isEmpty then failure
    else allItems s
  | .allOf written =>
    match s.sources.zipIdx.filter fun (shape, _) => shape.name == foldName written with
    | [] => failure
    | found => do
      let found ← found.mapM fun (shape, i) => columnItems s [] i shape
      pure found.flatten
  | .expr e label => do
    let e ← whole inner p e
    pure [(e, (label.map foldName).getD (itemName s e))]

def named (written : List Item) (found : List (List (Expr × String))) : List (String × Expr) :=
  (written.zip found).filterMap fun
    | (.expr _ (some label), [(e, _)]) => some (foldName label, e)
    | _ => none

/-- The column of a result that a number from 1 stands for. -/
def numbered (results : List Expr) (n : Int) : Lookup Expr :=
  if n < 1 then failure else StateT.lift results[(n - 1).toNat]?

def collatedAs : Expr → Expr → Expr
  | .collate c e, f => .collate c (collatedAs e f)
  | _, f => f

def groupTerm (inner : Inner) (p : Place) (results : List Expr) (e : Expr) : Lookup Expr := do
  let term ←
    match e.writtenNumber? with
    | some n => do
      let found ← numbered results n
      pure (collatedAs e found)
    | none => whole inner { p with grouped := false } e
  known term.ownCollation
  if term.hasAggregate then failure else pure term

/-- Parts of the condition on groups that have one value on the members of each group are conditions on the
members: the condition on these with such parts behind it, and the other parts. -/
def moved (groups : List Expr) (condition having : Option Expr) : Option Expr × Option Expr :=
  if groups.isEmpty then (condition, having)
  else
    let known := groups.filter fun g => g.ownCollation == some .binary
    let (onMembers, onGroups) := ((having.map Expr.directParts).getD []).partition fun e =>
      e.isGivenBy known && !isZero e
    let all (start : Option Expr) (es : List Expr) : Option Expr :=
      es.foldl (fun done e => some ((done.map fun d => conjunction d e).getD e)) start
    (all condition onMembers, all none onGroups)

def block (tables : List Table) (inner : Inner) (outer : Place) (b : Block) :
    Lookup (Block × Scope × List TableColumn) := do
  let found ← b.sources.mapM (source tables inner outer)
  let sources := found.map (·.1)
  let shapes ← shapes (found.map (·.2))
  let bare : Scope := ⟨shapes, []⟩
  let at_ (s : Scope) (grouped inConditions : Bool) : Place :=
    { outer.inside with scopes := s :: outer.scopes, grouped, inConditions, windowed := false }
  let found ← b.items.mapM (items inner { at_ bare true false with windowed := true } bare)
  let results := found.flatten
  let scope : Scope := ⟨shapes, named b.items found⟩
  let more ← b.more.mapM fun row => row.mapM (whole inner (at_ bare true false))
  let overGroups ← goesOverGroups (results.map (·.1))
  let grouped := !b.groups.isEmpty || overGroups
  let sources ← sources.zipIdx.mapM fun (s, i) => do
    let origin : Origin ←
      match s.origin with
      | .function f args => do
        let args ← args.mapM (whole inner (at_ bare false false))
        pure (.function f args)
      | o => pure o
    let joinedOn ← s.joinedOn.mapM (whole inner (at_ bare false outer.inConditions))
    let joinedOn ← partnerCondition shapes i joinedOn
    pure { s with origin, joinedOn }
  let having ← b.having.mapM (whole inner (at_ scope grouped false))
  let condition ← b.condition.mapM (whole inner (at_ scope false outer.inConditions))
  let alone : Place :=
    { outer.inside with scopes := [scope], grouped := false, inConditions := false, windowed := false }
  let groups ← b.groups.mapM (groupTerm inner alone (results.map (·.1)))
  if having.isSome && !grouped then failure
  let (condition, having) := moved groups condition having
  pure (⟨b.distinct, results.map fun r => .expr r.1 (some r.2), sources, condition, groups, having, [], more,
    grouped⟩, scope, results.map fun r => .plain r.2 r.1.affinity?)

/-- What the rows of a block are ordered by: a column of the result by its number or its own name, or any
other expression. -/
def orderTerm (inner : Inner) (p : Place) (s : Scope) (results : List Expr) (t : OrderTerm) :
    Lookup OrderTerm := do
  let own :=
    match t.expr.withoutCollation with
    | .name n => s.result? n
    | _ => none
  let e ←
    match own, t.expr.writtenNumber? with
    | some found, _ => pure (collatedAs t.expr found)
    | none, some n => do
      let found ← numbered results n
      pure (collatedAs t.expr found)
    | none, none => whole inner p t.expr
  known e.ownCollation
  pure { t with expr := e }

/-- A column of a result, of which there is one source. -/
def resultColumn (columns : List TableColumn) (i : Nat) : Expr :=
  .column ⟨0, 0, i, (columns[i]?.bind TableColumn.affinity), false, false⟩

/-- What the rows of several blocks are ordered by: a column of the result by its number, or as one of the
blocks names it. -/
def compoundTerm (inner : Inner) (outer : Place) (parts : List (Block × Scope)) (columns : List TableColumn)
    (t : OrderTerm) : Lookup OrderTerm := do
  let count := columns.length
  let place (b : Block × Scope) (i : Nat) : Option Nat := do
    let (.expr e _) ← b.1.items[i]? | none
    if let .name n := t.expr.withoutCollation then
      if let some f := b.2.result? n then
        if f.same e then return i
    let p : Place :=
      { outer.inside with scopes := [b.2], grouped := true, inConditions := false, windowed := false }
    let (f, _) ← (whole inner p t.expr.withoutCollation).run []
    if f.same e then some i else none
  let i ←
    match t.expr.writtenNumber? with
    | some n => if 1 ≤ n ∧ n ≤ count then pure (n - 1).toNat else failure
    | none => StateT.lift (parts.findSome? fun b => (List.range count).findSome? (place b))
  known t.expr.ownCollation
  pure { t with expr := collatedAs t.expr (resultColumn columns i) }

/-- The name with the first number behind it that makes it a new one; `fuel` bounds the number. -/
def newName (known : List String) (name : String) : Nat → Nat → String
  | 0, _ => name
  | fuel + 1, n =>
    let numbered := name ++ ":" ++ Nat.repr n
    if known.contains numbered then newName known name fuel (n + 1) else numbered

/-- The columns with names that are all different, those without a name aside. -/
def distinctNames (columns : List TableColumn) : List TableColumn :=
  columns.foldl (fun done c =>
    let known := done.map TableColumn.name
    if c.name != "" && known.contains c.name then
      done ++ [{ c with name := newName known c.name (done.length + 1) 1 }]
    else done ++ [c]) []

/-- How many blocks at the end of a defined query go on from its own rows: those that have it as a source, where the
operator of the last one is in front of each. -/
def goingOn (d : Definition) (s : Selection) : Nat :=
  let isOwn (t : Source) : Bool :=
    match t.origin with
    | .table written none => foldName written == d.name
    | _ => false
  match s.others.getLast? with
  | some (op, _) =>
    if op == .union || op == .unionAll then
      (s.others.reverse.takeWhile fun (o, b) => o == op && b.sources.any isOwn).length
    else 0
  | none => 0

/-- Blocks behind the first one of a query, each of which makes columns of the same number. -/
def furtherBlocks (tables : List Table) (inner : Inner) (outer : Place) (width : Nat)
    (others : List (SetOperator × Block)) : Lookup (List (SetOperator × Block × Scope)) :=
  others.mapM fun (op, b) => do
    let (b, scope, more) ← block tables inner outer b
    if more.length = width then pure (op, b, scope) else failure

/-- Columns compared as what is common to some blocks. -/
def typed (columns : List TableColumn) (blocks : List Block) : List TableColumn :=
  columns.zipIdx.map fun (c, i) =>
    { c with affinity := Expr.commonAffinity? (blocks.filterMap fun b => b.results[i]?) }

/-- The blocks of a defined query that go on from its own rows, behind those that do not. What their columns are
compared as depends on what they make of columns that are not typed yet. -/
def blocksGoingOn (tables : List Table) (inner : Inner) (outer : Place) (d : Definition)
    (columns : List TableColumn) (setup : List Block) (others : List (SetOperator × Block)) :
    Lookup (List (SetOperator × Block × Scope)) := do
  let columns ← renamed d columns
  let place (columns : List TableColumn) : Place := { outer with current := some (d.name, columns) }
  let untyped := columns.map fun c => { c with affinity := none, required := false }
  let found ← furtherBlocks tables inner (place untyped) columns.length others
  let blocks := setup ++ found.map fun (_, b, _) => b
  let found ← furtherBlocks tables inner (place (typed untyped blocks)) columns.length others
  let isProper (b : Block) : Bool :=
    !b.isGrouped && (Expr.allWindowCalls b.results).isEmpty &&
      (b.sources.filter fun s => match s.origin with | .current => true | _ => false).length == 1
  if found.all fun (_, b, _) => isProper b then pure found else failure

def selection (tables : List Table) (inner : Inner) (outer : Place) (s : Selection) :
    Lookup (Selection × List TableColumn) := do
  let outer := if s.definitions.isEmpty then outer else { outer with definitions := s.definitions :: outer.definitions }
  let count := s.others.length - (outer.own.map fun d => goingOn d s).getD 0
  let (first, scope, columns) ← block tables inner outer s.first
  let others ← furtherBlocks tables inner outer columns.length (s.others.take count)
  let more ←
    match outer.own, s.others.drop count with
    | _, [] | none, _ => pure []
    | some d, last => blocksGoingOn tables inner outer d columns (first :: others.map fun (_, b, _) => b) last
  let others := others ++ more
  let columns := typed columns (first :: others.map fun (_, b, _) => b)
  let order ← s.order.mapM fun t =>
    if others.isEmpty then
      let place := { outer.inside with scopes := [scope], grouped := first.isGrouped, inConditions := false,
                                       windowed := true }
      orderTerm inner place scope first.results t
    else compoundTerm inner outer ((first, scope) :: others.map (·.2)) columns t
  let limits : Place :=
    { outer.inside with scopes := [], grouped := false, inConditions := false, windowed := false }
  let limit ← s.limit.mapM (whole inner limits)
  let offset ← s.offset.mapM (whole inner limits)
  pure (⟨[], first, others.map fun (op, b, _) => (op, b), order, limit, offset⟩, distinctNames columns)

/-- Looks up the names in the query of a number, and in the queries in it; `fuel` bounds how deep they are
in each other. -/
def selectionAt (tables : List Table) (raw : List Selection) (height : Nat → Nat) :
    Nat → Place → Nat → Lookup (List TableColumn)
  | 0, _, _ => failure
  | fuel + 1, p, n => do
    let s ← StateT.lift raw[n]?
    let inner : Inner := ⟨height, selectionAt tables raw height fuel⟩
    let (s, columns) ← selection tables inner p s
    modify ((n, s) :: ·)
    pure columns

end Place

/-- Whether functions of groups stand where there are groups that they can go over. -/
def Selection.isSound (outer : Nat → List Nat) (s : Selection) : Bool :=
  let isFree (es : List Expr) : Bool := !(Expr.allAggregateLevels outer es).contains 0
  (s.blocks.all fun b =>
    isFree (b.condition.toList ++ b.sources.filterMap Source.joinedOn ++ b.sources.flatMap (·.origin.args) ++
        b.groups) &&
      (b.isGrouped || isFree (b.results ++ b.having.toList)) &&
      (Expr.allAggregates (b.results ++ b.having.toList)).all fun
        | .aggregate _ _ args => isFree args
        | _ => true) &&
    (s.first.isGrouped || isFree (s.order.map OrderTerm.expr))

def Selection.inner (s : Selection) : List Nat :=
  s.blocks.flatMap Block.origins ++
    Expr.allQueries (s.blocks.flatMap Block.exprs ++ s.order.map OrderTerm.expr ++ s.limit.toList ++
      s.offset.toList)

namespace Statement

/-- Whether the queries that are run for some queries are sound; `fuel` bounds how deep they are in each
other. -/
def areSound (queries : List (Nat × Selection)) (outer : Nat → List Nat) : Nat → List Selection → Bool
  | 0, ss => ss.isEmpty
  | fuel + 1, ss =>
    ss.all (Selection.isSound outer) &&
      (ss.isEmpty || areSound queries outer fuel
        ((ss.flatMap Selection.inner).eraseDups.filterMap fun n => queries.lookup n))

/-- The statement of a query, where the queries in it are in a list, each behind those that are in it. -/
def ofSelection? (tables : List Table) (raw : List Selection) (main : Selection) : Option Statement := do
  let heights := Selection.heights raw
  let height (n : Nat) := heights.getD n 0
  let inner : Place.Inner := ⟨height, Place.selectionAt tables raw height raw.length⟩
  let ((s, _), queries) ← (Place.selection tables inner ⟨[], false, true, false, 0, [], [], none, none⟩ main).run []
  let levels := outerLevels queries
  if areSound queries (fun n => (levels.lookup n).getD []) (raw.length + 2) [s] then some ⟨queries, s⟩ else none

end Statement

end AuditSearch.Sql
