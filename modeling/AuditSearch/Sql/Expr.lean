import AuditSearch.Sql.Function.Basic
import AuditSearch.Sql.Function.Rows
import AuditSearch.Sql.Window

/-!
Expressions of clauses, and the queries that may stand in them. A query in an expression is referred to
by its number in a list; it holds only queries of lesser numbers.
-/
namespace AuditSearch.Sql

/-- How a name is written. -/
inductive Quoting where
  | bare
  | doubleQuotes
  /-- In brackets or backticks. -/
  | enclosed
  deriving DecidableEq, Repr

structure Name where
  /-- What the name is in: a table, or a schema and behind it the table. -/
  qualifiers : List String
  written : String
  quoting : Quoting
  deriving DecidableEq, Repr

/-- A column of a source of a query. -/
structure ColumnRef where
  /-- How many queries around the expression the query is; 0 is the one that the expression is in. -/
  level : Nat
  source : Nat
  column : Nat
  affinity : Option Affinity
  required : Bool
  isRowId : Bool
  deriving DecidableEq, Repr

/-- A function of the rows of a group. -/
inductive Aggregate where
  | count
  | sum
  | total
  | average
  | least
  | greatest
  | joined
  /-- A document of all values, in bytes or as a text. -/
  | documentArray (asBytes : Bool)
  /-- A document of all names with their values. -/
  | documentObject (asBytes : Bool)
  deriving DecidableEq, Repr

def Aggregate.compares : Aggregate → Bool
  | least | greatest => true
  | _ => false

def Aggregate.seesDocuments : Aggregate → Bool
  | documentArray _ | documentObject _ | least | greatest => true
  | _ => false

inductive WindowFunction where
  | aggregate (f : Aggregate)
  | rowNumber
  | rank
  | denseRank
  | percentRank
  | cumulativeShare
  /-- The number of the part of a row, where all rows are in so many parts of one size. -/
  | partNumber
  /-- The value on a row so far in front of a row, or behind it. -/
  | before
  | behind
  | first
  | last
  /-- The value on the row of a number. -/
  | numbered
  deriving DecidableEq, Repr

/-- A query that stands in an expression. -/
structure QueryRef where
  number : Nat
  /-- What the columns of its result are compared as. -/
  columns : List (Option Affinity)
  deriving DecidableEq, Repr

inductive Expr where
  | literal (v : Value)
  | truth (value : Bool)
  /-- A parameter, by its place in the clause from 0. -/
  | param (index : Nat)
  | name (n : Name)
  | column (c : ColumnRef)
  /-- A column that is known to have the value of an expression. -/
  | fixed (c : ColumnRef) (value : Expr)
  /-- A call of a function by a name that is not looked up yet, or over a window. -/
  | call (written : String) (shape : CallShape) (args : List Expr)
  | apply (f : Function) (args : List Expr)
  | aggregate (f : Aggregate) (shape : CallShape) (args : List Expr)
  | compare (op : Comparison) (a b : Expr)
  | between (a low high : Expr)
  | among (a : Expr) (items : List Expr)
  | amongRows (a : Expr) (query : QueryRef)
  | not (a : Expr)
  | and (a b : Expr)
  | or (a b : Expr)
  | collate (name : String) (a : Expr)
  | coalesce (args : List Expr)
  /-- Conditions, each with its result, and the result if none of them holds. -/
  | cases (branches : List Expr)
  /-- Values that a base may be equal to, each with its result, and the result if it is equal to none. -/
  | choose (base : Expr) (branches : List Expr)
  /-- Several values that are compared one after the other. -/
  | row (items : List Expr)
  /-- The first row of a query. -/
  | query (q : QueryRef)
  | hasRows (query : Nat)
  deriving Inhabited

/-- Where the rows of a source come from. -/
inductive Origin where
  | table (name : String) (schema : Option String)
  | query (number : Nat)
  /-- A function by a name that is not looked up yet. -/
  | call (name : String) (args : List Expr)
  | function (f : RowFunction) (args : List Expr)
  /-- The row that a query goes on from. -/
  | current

/-- The columns in which partners agree. -/
inductive Shared where
  | nothing
  | all
  | columns (names : List String)
  deriving DecidableEq, Repr

/-- How the rows of a source are put to those of the sources in front of it. -/
structure Join where
  /-- Whether rows in front that have no partner here stay. -/
  keepsLeft : Bool
  /-- Whether rows here that have no partner in front stay. -/
  keepsRight : Bool
  shared : Shared
  deriving DecidableEq, Repr

namespace Join

/-- All rows with all rows. -/
def every : Join :=
  ⟨false, false, .nothing⟩

end Join

structure Source where
  origin : Origin
  label : Option String
  indexing : Indexing
  join : Join
  joinedOn : Option Expr

/-- A column of the result, or several. -/
inductive Item where
  | all
  | allOf (source : String)
  | expr (e : Expr) (label : Option String)

/-- What a function that makes the rows is called with. -/
def Origin.args : Origin → List Expr
  | call _ args | function _ args => args
  | table _ _ | query _ | current => []

def Origin.isTable : Origin → Bool
  | table _ _ => true
  | _ => false

def Item.expr? : Item → Option Expr
  | .expr e _ => some e
  | _ => none

structure OrderTerm where
  expr : Expr
  descending : Bool
  nullsLast : Bool

/-- The part of a query between two of the operators that put rows together. -/
structure Block where
  distinct : Bool
  items : List Item
  sources : List Source
  condition : Option Expr
  groups : List Expr
  having : Option Expr
  /-- The windows that have names, with their expressions; the last one comes first. -/
  windows : List (String × Window × List Expr)
  /-- Further rows, of a block that is written out. -/
  more : List (List Expr)
  isGrouped : Bool

/-- How the rows of two blocks are put together. -/
inductive SetOperator where
  | union
  | unionAll
  | except
  | intersect
  deriving DecidableEq, Repr

/-- A name for a query, with names for its columns if they have others than the query gives them. -/
structure Definition where
  name : String
  columns : List String
  query : Nat
  deriving DecidableEq, Repr

structure Selection where
  /-- What sources may refer to by name in the query and in those in it. -/
  definitions : List Definition
  first : Block
  others : List (SetOperator × Block)
  order : List OrderTerm
  limit : Option Expr
  offset : Option Expr

namespace Expr

mutual

/-- The collation that is asked for first in an expression. -/
def collation? : Expr → Option String
  | collate c _ => some c
  | call _ _ args | apply _ args | aggregate _ _ args | coalesce args | cases args | row args =>
    firstCollation? args
  | compare _ a b | and a b | or a b => a.collation?.or b.collation?
  | between a low high => (a.collation?.or low.collation?).or high.collation?
  | among a items | choose a items => a.collation?.or (firstCollation? items)
  | not a | amongRows a _ => a.collation?
  | _ => none

def firstCollation? : List Expr → Option String
  | [] => none
  | e :: es => e.collation?.or (firstCollation? es)

end

/-- The collation of two sides that are compared: one that is asked for, on the left first. -/
def collationOf (a b : Expr) : Option Collation :=
  match a.collation?.or b.collation? with
  | none => some .binary
  | some written => Collation.named? written

def ownCollation (a : Expr) : Option Collation :=
  match a.collation? with
  | none => some .binary
  | some written => Collation.named? written

def argumentCollation? : Expr → Option (Option Collation)
  | column _ | fixed _ _ => some (some .binary)
  | apply .plain [a] | apply (.cast _) [a] => a.argumentCollation?
  | e => e.collation?.map Collation.named?

def argumentsCollation (args : List Expr) : Option Collation :=
  (args.findSome? argumentCollation?).getD (some .binary)

/-- What an expression prefers to be compared as. -/
def affinity? : Expr → Option Affinity
  | column c | fixed c _ => c.affinity
  | apply (.cast type) _ => some type
  | collate _ a => a.affinity?
  | query q => q.columns.head?.join
  | row (e :: _) => e.affinity?
  | _ => none

/-- How many values an expression has. -/
def width : Expr → Nat
  | row items => items.length
  | query q => q.columns.length
  | _ => 1

/-- What stands in front of the results of branches. -/
def branchValues : List Expr → List Expr
  | v :: _ :: rest => v :: branchValues rest
  | _ => []

def withoutCollation : Expr → Expr
  | collate _ e => e.withoutCollation
  | e => e

def signedNumber? : Expr → Option Int
  | literal (.integer n) => if n < 1 <<< 31 then some n else none
  | apply .plain [e] => e.signedNumber?
  | apply .negate [e] => e.signedNumber?.map Int.neg
  | _ => none

/-- The number of 32 bits that an expression is written as. -/
def writtenNumber? (e : Expr) : Option Int :=
  e.withoutCollation.signedNumber?

mutual

/-- Whether the value may be a number, and whether it may be a text, as far as its form tells. -/
def contents : Expr → Bool × Bool
  | collate _ a | apply .plain [a] => a.contents
  | literal .null | literal (.blob _) => (false, false)
  | literal (.text _) | apply (.operator .concatenate) _ => (false, true)
  | param _ | call _ _ _ | apply (.routine _) _ | apply (.likely _) _ | aggregate _ _ _ | coalesce _ => (true, true)
  | column c | fixed c _ => ofAffinity c.affinity
  | query q => ofAffinity q.columns.head?.join
  | apply (.cast type) _ => ofAffinity (some type)
  | cases branches | choose _ branches => contentsOfResults branches
  | _ => (true, false)
where
  /-- What a column may hold. -/
  ofAffinity : Option Affinity → Bool × Bool
    | none | some .blob => (true, true)
    | some .text => (false, true)
    | some _ => (true, false)

def contentsOfResults : List Expr → Bool × Bool
  | [] => (false, false)
  | [e] => e.contents
  | _ :: e :: es =>
    let (number, text) := e.contents
    let (numbers, texts) := contentsOfResults es
    (number || numbers, text || texts)

end

/-- What a column of a result prefers to be compared as, from its expressions in all blocks: what the first one
prefers that prefers anything, unless it does not go with what the others may be. -/
def commonAffinity? (es : List Expr) : Option Affinity :=
  let (front, rest) := es.span fun e => e.affinity?.isNone
  match rest with
  | [] => none
  | e :: rest =>
    let others := (front ++ rest).map contents
    match e.affinity?, es with
    | some .blob, _ => some .blob
    | some .text, _ => if others.any (·.1) then some .blob else some .text
    | type, first :: _ =>
      if others.any (·.2) then some .blob
      else
        match first with
        | apply (.cast _) _ => some .numeric
        | _ => type
    | type, [] => type

/-- The parts of a condition, not looking through what is around them. -/
def directParts : Expr → List Expr
  | and a b => a.directParts ++ b.directParts
  | e => [e]

/-- The items of a row; any other expression is its only item. -/
def parts : Expr → List Expr
  | row items => items
  | e => [e]

mutual

def same : Expr → Expr → Bool
  | literal v, literal w => v == w
  | truth a, truth b => a == b
  | param i, param j => i == j
  | name n, name m => n == m
  | column c, column d => c == d
  | fixed c a, fixed d b => c == d && a.same b
  | call f form as, call g form' bs => f == g && form == form' && allSame as bs
  | apply f as, apply g bs => f == g && allSame as bs
  | aggregate f d as, aggregate g d' bs => f == g && d == d' && allSame as bs
  | compare op a b, compare op' c d => op == op' && a.same c && b.same d
  | between a b c, between d e f => a.same d && b.same e && c.same f
  | among a as, among b bs | choose a as, choose b bs => a.same b && allSame as bs
  | not a, not b => a.same b
  | and a b, and c d | or a b, or c d => a.same c && b.same d
  | collate c a, collate d b => c == d && a.same b
  | coalesce as, coalesce bs | cases as, cases bs | row as, row bs => allSame as bs
  | _, _ => false

def allSame : List Expr → List Expr → Bool
  | [], [] => true
  | a :: as, b :: bs => a.same b && allSame as bs
  | _, _ => false

end

mutual

def queries : Expr → List Nat
  | query q => [q.number]
  | hasRows n => [n]
  | amongRows a q => a.queries ++ [q.number]
  | call _ _ args | apply _ args | aggregate _ _ args | coalesce args | cases args | row args =>
    allQueries args
  | compare _ a b | and a b | or a b => a.queries ++ b.queries
  | between a low high => a.queries ++ low.queries ++ high.queries
  | among a items | choose a items => a.queries ++ allQueries items
  | not a | collate _ a | fixed _ a => a.queries
  | literal _ | truth _ | param _ | name _ | column _ => []

def allQueries : List Expr → List Nat
  | [] => []
  | e :: es => e.queries ++ allQueries es

end

mutual

def refs (outer : Nat → List ColumnRef) : Expr → List ColumnRef
  | column c => [c]
  | call _ _ args | apply _ args | aggregate _ _ args | coalesce args | cases args | row args =>
    allRefs outer args
  | compare _ a b | and a b | or a b => a.refs outer ++ b.refs outer
  | between a low high => a.refs outer ++ low.refs outer ++ high.refs outer
  | among a items | choose a items => a.refs outer ++ allRefs outer items
  | not a | collate _ a => a.refs outer
  | amongRows a q => a.refs outer ++ outer q.number
  | query q => outer q.number
  | hasRows n => outer n
  | literal _ | truth _ | param _ | name _ | fixed _ _ => []

def allRefs (outer : Nat → List ColumnRef) : List Expr → List ColumnRef
  | [] => []
  | e :: es => e.refs outer ++ allRefs outer es

end

mutual

/-- Whether an expression calls a function of the rows of a group of the query that it is in. -/
def hasAggregate : Expr → Bool
  | aggregate _ s _ => s.level == 0
  | call _ _ args | apply _ args | coalesce args | cases args | row args => anyHasAggregate args
  | compare _ a b | and a b | or a b => a.hasAggregate || b.hasAggregate
  | between a low high => a.hasAggregate || low.hasAggregate || high.hasAggregate
  | among a items | choose a items => a.hasAggregate || anyHasAggregate items
  | not a | amongRows a _ | collate _ a | fixed _ a => a.hasAggregate
  | literal _ | truth _ | param _ | name _ | column _ | query _ | hasRows _ => false

def anyHasAggregate : List Expr → Bool
  | [] => false
  | e :: es => e.hasAggregate || anyHasAggregate es

end

mutual

/-- The calls of functions of the rows of a group of the query that an expression is in. -/
def aggregates : Expr → List Expr
  | aggregate f s args => if s.level = 0 then [aggregate f s args] else []
  | call _ _ args | apply _ args | coalesce args | cases args | row args => allAggregates args
  | compare _ a b | and a b | or a b => a.aggregates ++ b.aggregates
  | between a low high => a.aggregates ++ low.aggregates ++ high.aggregates
  | among a items | choose a items => a.aggregates ++ allAggregates items
  | not a | amongRows a _ | collate _ a | fixed _ a => a.aggregates
  | literal _ | truth _ | param _ | name _ | column _ | query _ | hasRows _ => []

def allAggregates : List Expr → List Expr
  | [] => []
  | e :: es => e.aggregates ++ allAggregates es

end

mutual

/-- How many queries around an expression those are whose groups the functions in it go over, where `outer` says
that of the queries in it. -/
def aggregateLevels (outer : Nat → List Nat) : Expr → List Nat
  | aggregate _ s args => s.level :: allAggregateLevels outer args
  | call _ _ args | apply _ args | coalesce args | cases args | row args => allAggregateLevels outer args
  | compare _ a b | and a b | or a b => a.aggregateLevels outer ++ b.aggregateLevels outer
  | between a low high =>
    a.aggregateLevels outer ++ low.aggregateLevels outer ++ high.aggregateLevels outer
  | among a items | choose a items => a.aggregateLevels outer ++ allAggregateLevels outer items
  | not a | collate _ a | fixed _ a => a.aggregateLevels outer
  | amongRows a q => a.aggregateLevels outer ++ outer q.number
  | query q => outer q.number
  | hasRows n => outer n
  | literal _ | truth _ | param _ | name _ | column _ => []

def allAggregateLevels (outer : Nat → List Nat) : List Expr → List Nat
  | [] => []
  | e :: es => e.aggregateLevels outer ++ allAggregateLevels outer es

end

mutual

def windowCalls : Expr → List Expr
  | call f s args => if s.window.isSome then [call f s args] else allWindowCalls args
  | apply _ args | aggregate _ _ args | coalesce args | cases args | row args => allWindowCalls args
  | compare _ a b | and a b | or a b => a.windowCalls ++ b.windowCalls
  | between a low high => a.windowCalls ++ low.windowCalls ++ high.windowCalls
  | among a items | choose a items => a.windowCalls ++ allWindowCalls items
  | not a | amongRows a _ | collate _ a | fixed _ a => a.windowCalls
  | literal _ | truth _ | param _ | name _ | column _ | query _ | hasRows _ => []

def allWindowCalls : List Expr → List Expr
  | [] => []
  | e :: es => e.windowCalls ++ allWindowCalls es

end

end Expr

namespace Selection

def blocks (s : Selection) : List Block :=
  s.first :: s.others.map (·.2)

def last (s : Selection) : Block :=
  (s.others.getLast?.map (·.2)).getD s.first

end Selection

namespace Block

/-- Whether the block goes on from a row of the query that it is in. -/
def goesOn (b : Block) : Bool :=
  b.sources.any fun s => match s.origin with | .current => true | _ => false

def results (b : Block) : List Expr :=
  b.items.filterMap Item.expr?

def writtenRows (b : Block) : List Block :=
  (b.results :: b.more).map fun row =>
    { b with items := row.map fun e => .expr e none, more := [], isGrouped := row.any Expr.hasAggregate }

def lastRow (b : Block) : List Expr :=
  b.more.getLastD b.results

def exprs (b : Block) : List Expr :=
  b.results ++ b.sources.flatMap (·.origin.args) ++ b.sources.filterMap (·.joinedOn) ++ b.condition.toList ++ b.groups ++ b.having.toList ++
    b.more.flatten

/-- The numbers of the queries whose rows a block goes through. -/
def origins (b : Block) : List Nat :=
  b.sources.filterMap fun s =>
    match s.origin with
    | .query n => some n
    | .table _ _ | .call _ _ | .function _ _ | .current => none

/-- A block as it is run to see whether it has a row: of the columns only functions of groups are computed. -/
def forExistence (b : Block) : Block :=
  if !(Expr.allWindowCalls b.results).isEmpty then b
  else
    let computed := if b.isGrouped then Expr.allAggregates b.results else []
    { b with distinct := false, items := (.literal (.integer 1) :: computed).map fun e => .expr e none }

end Block

/-- A query as it is run for its first row. A limit that it has of its own tells whether there is any. -/
def Selection.forFirstRow (s : Selection) : Selection :=
  let one : Expr :=
    match s.limit with
    | none => .literal (.integer 1)
    | some e => .compare .notEqual e (.apply (.cast .numeric) [.literal (.integer 0)])
  { s with limit := some one }

/-- A query as it is run to see whether it has a row. -/
def Selection.forExistence (s : Selection) : Selection :=
  if s.others.all fun (op, _) => op == .unionAll then
    { s with first := s.first.forExistence, order := [],
             others := s.others.map fun (op, b) => (op, b.forExistence) }
  else s

end AuditSearch.Sql
