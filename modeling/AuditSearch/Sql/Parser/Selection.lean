import AuditSearch.Sql.Parser.Expression

/-!
Parsing of queries. The queries in parentheses are read from the inside out: each is put into a list,
and a token with its place in the list takes its place.
-/
namespace AuditSearch.Sql

/-- Windows that have names, with their expressions, the last one first. -/
abbrev NamedWindows :=
  List (String × Window × List Expr)

namespace Expr

mutual

/-- The expression with windows that no longer refer to those that have names. One that cannot do without
keeps the name. -/
def completing (known : NamedWindows) : Expr → Expr
  | call f s args =>
    let args := completingAll known args
    match s.window.bind fun w => w.completed? known (s.windowOf args) with
    | none => call f s args
    | some (w, more) => call f { s with window := some w } (args.take s.inFront ++ more)
  | apply f args => apply f (completingAll known args)
  | aggregate f s args => aggregate f s (completingAll known args)
  | coalesce args => coalesce (completingAll known args)
  | cases args => cases (completingAll known args)
  | row args => row (completingAll known args)
  | compare op a b => compare op (a.completing known) (b.completing known)
  | and a b => and (a.completing known) (b.completing known)
  | or a b => or (a.completing known) (b.completing known)
  | between a low high => between (a.completing known) (low.completing known) (high.completing known)
  | among a items => among (a.completing known) (completingAll known items)
  | choose a items => choose (a.completing known) (completingAll known items)
  | not a => not (a.completing known)
  | collate c a => collate c (a.completing known)
  | amongRows a q => amongRows (a.completing known) q
  | e => e

def completingAll (known : NamedWindows) : List Expr → List Expr
  | [] => []
  | e :: es => e.completing known :: completingAll known es

end

end Expr

def exprList? : Nat → List Token → Option (List Expr × List Token)
  | 0, _ => none
  | fuel + 1, ts => do
    match ← leadingExpr? ts with
    | (e, .comma :: rest) =>
      let (es, rest) ← exprList? fuel rest
      some (e :: es, rest)
    | (e, rest) => some ([e], rest)

/-- Whether tokens start with the word for windows that have names, and the first of these. -/
def startsWindows : List Token → Bool
  | t :: u :: .asWord :: _ => isWord "window" t && (windowName? u).isSome
  | _ => false

def label? : List Token → Option (Option String × List Token)
  | .asWord :: t :: ts => (partName? t).map fun s => (some s, ts)
  | [.asWord] => none
  | t :: ts =>
    match bareName? t with
    | some s => some (if startsWindows (t :: ts) then (none, t :: ts) else (some s, ts))
    | none => some (none, t :: ts)
  | [] => some (none, [])

def item? (ts : List Token) : Option (Item × List Token) :=
  match ts with
  | .times :: rest => some (.all, rest)
  | t :: .dot :: .times :: rest => if startsOther t then none else (partName? t).map fun s => (.allOf s, rest)
  | ts => do
    let (e, rest) ← leadingExpr? ts
    let (name, rest) ← label? rest
    some (.expr e name, rest)

def items? : Nat → List Token → Option (List Item × List Token)
  | 0, _ => none
  | fuel + 1, ts => do
    match ← item? ts with
    | (i, .comma :: rest) =>
      let (is, rest) ← items? fuel rest
      some (i :: is, rest)
    | (i, rest) => some ([i], rest)

/-- What the words between two sources say. -/
structure JoinWords where
  isNatural : Bool
  left : Bool
  right : Bool
  outer : Bool
  inner : Bool

def JoinWords.add? (w : JoinWords) : Token → Option JoinWords
  | .naturalWord => some { w with isNatural := true }
  | .leftWord => some { w with left := true, outer := true }
  | .rightWord => some { w with right := true, outer := true }
  | .fullWord => some { w with left := true, right := true, outer := true }
  | .outerWord => some { w with outer := true }
  | .innerWord | .crossWord => some { w with inner := true }
  | _ => none

def JoinWords.join? (w : JoinWords) : Option Join :=
  if (w.inner && w.outer) || (w.outer && !w.left && !w.right) then none
  else some ⟨w.left, w.right, if w.isNatural then .all else .nothing⟩

def joinWords? : Nat → JoinWords → List Token → Option (Join × List Token)
  | _, w, .joinWord :: ts => w.join?.map fun j => (j, ts)
  | more + 1, w, t :: ts => (w.add? t).bind fun w => joinWords? more w ts
  | _, _, _ => none

/-- What stands between two sources: nothing that joins them, a comma, or words. There is none if the words make
no sense. -/
def join? : List Token → Option (Option Join × List Token)
  | .comma :: ts => some (some .every, ts)
  | t :: ts =>
    let start : JoinWords := ⟨false, false, false, false, false⟩
    if t == .joinWord || (start.add? t).isSome then
      (joinWords? 3 start (t :: ts)).map fun (j, rest) => (some j, rest)
    else some (none, t :: ts)
  | [] => some (none, [])

def callArguments? : List Token → Option (List Expr × List Token)
  | .rightParen :: ts => some ([], ts)
  | ts => do
    match ← exprList? (ts.length + 1) ts with
    | (args, .rightParen :: rest) => some (args, rest)
    | _ => none

def origin? : List Token → Option (Origin × List Token)
  | .leftParen :: .query n :: .rightParen :: ts => some (.query n, ts)
  | t :: .dot :: u :: .leftParen :: ts => do
    let _ ← partName? t
    let name ← partName? u
    let (args, rest) ← callArguments? ts
    some (.call name args, rest)
  | t :: .dot :: u :: ts => do
    let schema ← partName? t
    let table ← partName? u
    some (.table table (some schema), ts)
  | t :: .leftParen :: ts => do
    let name ← partName? t
    let (args, rest) ← callArguments? ts
    some (.call name args, rest)
  | t :: ts => (partName? t).map fun s => (.table s none, ts)
  | [] => none

def indexing? : List Token → Option (Indexing × List Token)
  | .not :: .indexedWord :: ts => some (.nothing, ts)
  | .indexedWord :: .byWord :: t :: ts => (partName? t).map fun s => (.only (foldName s), ts)
  | .indexedWord :: _ => none
  | ts => some (.any, ts)

def names? : List Token → Option (List String × List Token)
  | t :: .rightParen :: ts => (partName? t).map fun s => ([foldName s], ts)
  | t :: .comma :: ts => do
    let s ← partName? t
    let (names, rest) ← names? ts
    some (foldName s :: names, rest)
  | _ => none

/-- Reads the condition under which rows of a source are partners, or the columns in which they agree. There may
be neither; the first source has none, nor has one that agrees in all columns that it can. -/
def partnerCondition? (isFirst : Bool) (join : Join) : List Token → Option (Join × Option Expr × List Token)
  | .onWord :: ts => do
    if isFirst || join.shared != .nothing then none
    let (e, rest) ← leadingExpr? ts
    some (join, some e, rest)
  | .usingWord :: .leftParen :: ts => do
    if isFirst || join.shared != .nothing then none
    let (names, rest) ← names? ts
    some ({ join with shared := .columns names }, none, rest)
  | ts => some (join, none, ts)

/-- Puts a list of sources in the place of one that is joined in this way. Several stand together only if they
keep no rows of what is in front of them. -/
def nested? (join : Join) (joinedOn : Option Expr) : List Source → Option (List Source)
  | [] => none
  | [s] => some [{ s with join, joinedOn }]
  | s :: t :: ss =>
    if join.keepsLeft || join.keepsRight || (t :: ss).any fun u => u.join.keepsRight then none
    else some ({ s with join, joinedOn } :: t :: ss)

/-- Reads sources, the first of which is joined in this way; `isFirst` says whether it is the first of all. -/
def sources? : Nat → Bool → Join → List Token → Option (List Source × List Token)
  | 0, _, _, _ => none
  | fuel + 1, isFirst, join, ts => do
    let (found, rest) ←
      match ts with
      | .leftParen :: .query n :: .rightParen :: rest => do
        let (name, rest) ← label? rest
        some ([⟨.query n, name, .any, join, none⟩], rest)
      | .leftParen :: rest => do
        match ← sources? fuel true .every rest with
        | ([s], .rightParen :: rest) =>
          let (name, rest) ← label? rest
          some ([{ s with label := name.or s.label }], rest)
        | (ss, .rightParen :: rest) =>
          match ← label? rest with
          | (none, rest) => some (ss, rest)
          | _ => none
        | _ => none
      | ts => do
        let (origin, rest) ← origin? ts
        let (name, rest) ← label? rest
        let (indexing, rest) ← if origin.isTable then indexing? rest else some (.any, rest)
        some ([⟨origin, name, indexing, join, none⟩], rest)
    let (own, joinedOn, rest) ← partnerCondition? isFirst join rest
    let found ← if isFirst then some found else nested? own joinedOn found
    match ← join? rest with
    | (none, rest) => some (found, rest)
    | (some next, rest) =>
      let (others, rest) ← sources? fuel false next rest
      some (found ++ others, rest)

def optionalExpr? (word : Token) : List Token → Option (Option Expr × List Token)
  | t :: ts =>
    if t == word then (leadingExpr? ts).map fun (e, rest) => (some e, rest) else some (none, t :: ts)
  | [] => some (none, [])

def groups? : List Token → Option (List Expr × List Token)
  | .groupWord :: .byWord :: ts => exprList? (ts.length + 1) ts
  | ts => some ([], ts)

/-- Reads windows with their names behind those that are known; `fuel` bounds their number. -/
def namedWindows? : Nat → NamedWindows → List Token → Option (NamedWindows × List Token)
  | 0, _, _ => none
  | fuel + 1, known, t :: .asWord :: .leftParen :: ts => do
    let name ← partName? t
    let (w, es, rest) ← window (6 * ts.length + 6) ts
    let (w, es) ← w.completed? known es
    let known := (foldName name, w, es) :: known
    match rest with
    | .comma :: rest => namedWindows? fuel known rest
    | rest => some (known, rest)
  | _, _, _ => none

def windows? (ts : List Token) : Option (NamedWindows × List Token) :=
  if startsWindows ts then namedWindows? (ts.length + 1) [] (ts.drop 1) else some ([], ts)

/-- A column of a result in which no window refers to one that has a name. -/
def Item.completing (known : NamedWindows) : Item → Item
  | .expr e name => .expr (e.completing known) name
  | i => i

def blockEnd? (b : Block) (ts : List Token) : Option (Block × List Token) := do
  let (groups, rest) ← groups? ts
  let (having, rest) ← optionalExpr? .havingWord rest
  let (windows, rest) ← windows? rest
  some ({ b with groups, having, windows, items := b.items.map (Item.completing windows) }, rest)

def selectBody? (distinct : Bool) (ts : List Token) : Option (Block × List Token) := do
  let (items, rest) ← items? (ts.length + 1) ts
  let (sources, rest) ←
    match rest with
    | .fromWord :: rest => sources? (rest.length + 1) true .every rest
    | rest => some ([], rest)
  let (condition, rest) ← optionalExpr? .whereWord rest
  blockEnd? ⟨distinct, items, sources, condition, [], none, [], [], false⟩ rest

def writtenRows? : Nat → List Token → Option (List (List Expr) × List Token)
  | 0, _ => none
  | fuel + 1, .leftParen :: ts => do
    match ← exprList? (ts.length + 1) ts with
    | (es, .rightParen :: .comma :: rest) =>
      let (rows, rest) ← writtenRows? fuel rest
      some (es :: rows, rest)
    | (es, .rightParen :: rest) => some ([es], rest)
    | _ => none
  | _, _ => none

/-- The block of rows that are written out. Their columns are named by their numbers. -/
def Block.ofRows (first : List Expr) (more : List (List Expr)) : Block :=
  let items := first.zipIdx.map fun (e, i) => Item.expr e (some ("column" ++ Nat.repr (i + 1)))
  ⟨false, items, [], none, [], none, [], more, false⟩

/-- Blocks with operators between them. -/
structure Blocks where
  first : Block
  others : List (SetOperator × Block)
  /-- Whether the last one is rows that are written out, behind which there is no order. -/
  endsWritten : Bool

def block? : List Token → Option (Blocks × List Token)
  | .selectWord :: .distinctWord :: ts => (selectBody? true ts).map fun (b, rest) => (⟨b, [], false⟩, rest)
  | .selectWord :: .allWord :: ts | .selectWord :: ts =>
    (selectBody? false ts).map fun (b, rest) => (⟨b, [], false⟩, rest)
  | .valuesWord :: ts => do
    match ← writtenRows? (ts.length + 1) ts with
    | (first :: more, rest) =>
      if more.all fun row => row.length == first.length then some (⟨.ofRows first more, [], true⟩, rest)
      else none
    | _ => none
  | _ => none

def setOperator? : List Token → Option (SetOperator × List Token)
  | .unionWord :: .allWord :: ts => some (.unionAll, ts)
  | .unionWord :: ts => some (.union, ts)
  | .exceptWord :: ts => some (.except, ts)
  | .intersectWord :: ts => some (.intersect, ts)
  | _ => none

def furtherBlocks? : Nat → Blocks → List Token → Option (Blocks × List Token)
  | 0, _, _ => none
  | fuel + 1, bs, ts =>
    match setOperator? ts with
    | none => some (bs, ts)
    | some (op, rest) => do
      let (next, rest) ← block? rest
      furtherBlocks? fuel ⟨bs.first, bs.others ++ [(op, next.first)], next.endsWritten⟩ rest

/-- Reads the order of a result, of which the windows may refer to these. There may be none. -/
def order? (known : NamedWindows) : List Token → Option (List OrderTerm × List Token)
  | .orderWord :: .byWord :: ts => do
    let (terms, rest) ← orderTerms (6 * ts.length + 6) [] ts
    some (terms.map fun (e, d) => ⟨e.completing known, d.descending, d.nullsLast⟩, rest)
  | ts => some ([], ts)

def limits? : List Token → Option (Option Expr × Option Expr × List Token)
  | .limitWord :: ts => do
    let (e, rest) ← leadingExpr? ts
    match rest with
    | .offsetWord :: rest =>
      let (f, rest) ← leadingExpr? rest
      some (some e, some f, rest)
    | .comma :: rest =>
      let (f, rest) ← leadingExpr? rest
      some (some f, some e, rest)
    | rest => some (some e, none, rest)
  | ts => some (none, none, ts)

def selectionEnd? (bs : Blocks) (ts : List Token) : Option Selection := do
  let (bs, rest) ← furtherBlocks? (ts.length + 1) bs ts
  if bs.endsWritten then
    if rest.isEmpty then some ⟨[], bs.first, bs.others, [], none, none⟩ else none
  else
    let (order, rest) ← order? (if bs.others.isEmpty then bs.first.windows else []) rest
    match ← limits? rest with
    | (limit, offset, []) => some ⟨[], bs.first, bs.others, order, limit, offset⟩
    | _ => none

/-- Reads what stands between the name of a query and the query: names of its columns, and whether its rows are
to be kept, which makes no difference. -/
def definitionHead? : List Token → Option (List String × List Token)
  | .leftParen :: ts => do
    let (names, rest) ← names? ts
    match rest with
    | .asWord :: rest => some (names, keeping rest)
    | _ => none
  | .asWord :: ts => some ([], keeping ts)
  | _ => none
where
  /-- What stands behind the words for keeping rows. -/
  keeping : List Token → List Token
    | .not :: t :: ts => if isWord "materialized" t then ts else .not :: t :: ts
    | t :: ts => if isWord "materialized" t then ts else t :: ts
    | [] => []

/-- Reads definitions with commas between them, no two of one name; `fuel` bounds their number. -/
def definitions? : Nat → List Definition → List Token → Option (List Definition × List Token)
  | 0, _, _ => none
  | _, _, [] => none
  | fuel + 1, done, t :: ts => do
    let name := foldName (← partName? t)
    if done.any fun d => d.name == name then none
    match ← definitionHead? ts with
    | (columns, .leftParen :: .query n :: .rightParen :: rest) =>
      let done := done ++ [⟨name, columns, n⟩]
      match rest with
      | .comma :: rest => definitions? fuel done rest
      | rest => some (done, rest)
    | _ => none

def selection? (ts : List Token) : Option Selection := do
  let (definitions, ts) ←
    match ts with
    | .withWord :: t :: ts =>
      let ts := if isWord "recursive" t then ts else t :: ts
      definitions? (ts.length + 1) [] ts
    | ts => some ([], ts)
  let (bs, rest) ← block? ts
  let s ← selectionEnd? bs rest
  some { s with definitions }

/-- The tokens in front of the name of a table in a query for all that is in it. -/
def tableQueryStart : List Token :=
  [.isIn, .leftParen, .selectWord, .times, .fromWord]

/-- The tokens with a query in the place of each table that membership is in. What tables are called with
stands at some depths of parentheses, the last of which is `calls.head?`, and ends the query. -/
def withTableQueries (depth : Nat) (calls : List Nat) : List Token → List Token
  | .isIn :: t :: .dot :: u :: .leftParen :: ts =>
    if (partName? t).isSome && (partName? u).isSome then
      tableQueryStart ++ t :: .dot :: u :: .leftParen :: withTableQueries (depth + 1) (depth :: calls) ts
    else .isIn :: t :: .dot :: u :: .leftParen :: withTableQueries (depth + 1) calls ts
  | .isIn :: t :: .dot :: u :: ts =>
    if (partName? t).isSome && (partName? u).isSome then
      tableQueryStart ++ t :: .dot :: u :: .rightParen :: withTableQueries depth calls ts
    else .isIn :: t :: .dot :: u :: withTableQueries depth calls ts
  | .isIn :: .leftParen :: ts => .isIn :: .leftParen :: withTableQueries (depth + 1) calls ts
  | .isIn :: t :: .leftParen :: ts =>
    if (partName? t).isSome then
      tableQueryStart ++ t :: .leftParen :: withTableQueries (depth + 1) (depth :: calls) ts
    else .isIn :: t :: .leftParen :: withTableQueries (depth + 1) calls ts
  | .isIn :: t :: ts =>
    if (partName? t).isSome then tableQueryStart ++ t :: .rightParen :: withTableQueries depth calls ts
    else .isIn :: t :: withTableQueries depth calls ts
  | .leftParen :: ts => .leftParen :: withTableQueries (depth + 1) calls ts
  | .rightParen :: ts =>
    match calls with
    | d :: ds =>
      if d + 1 == depth then .rightParen :: .rightParen :: withTableQueries d ds ts
      else .rightParen :: withTableQueries (depth - 1) calls ts
    | [] => .rightParen :: withTableQueries (depth - 1) [] ts
  | t :: ts => t :: withTableQueries depth calls ts
  | [] => []

/-- Tokens in the parentheses that are open, the innermost first and each from its last token, and the
queries that have been read. -/
structure Nesting where
  levels : List (List Token)
  queries : List Selection

def startsQuery : List Token → Bool
  | .selectWord :: _ | .valuesWord :: _ => true
  | .withWord :: t :: _ => (partName? t).isSome
  | _ => false

def Nesting.next? (n : Nesting) (t : Token) : Option Nesting :=
  match t, n.levels with
  | .leftParen, levels => some { n with levels := [] :: levels }
  | .rightParen, inside :: outside :: levels =>
    let ts := inside.reverse
    if startsQuery ts then do
      let s ← selection? ts
      let k := n.queries.length
      some ⟨(.rightParen :: .query k :: .leftParen :: outside) :: levels, n.queries ++ [s]⟩
    else some { n with levels := (.rightParen :: inside ++ .leftParen :: outside) :: levels }
  | t, inside :: levels => some { n with levels := (t :: inside) :: levels }
  | _, [] => none

/-- Puts a number in the place of each query in parentheses. -/
def numberQueries? (ts : List Token) : Option (List Token × List Selection) := do
  let n ← (withTableQueries 0 [] ts).foldlM Nesting.next? ⟨[[]], []⟩
  match n.levels with
  | [level] => some (level.reverse, n.queries)
  | _ => none

end AuditSearch.Sql
