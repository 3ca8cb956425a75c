import AuditSearch.Sql.Plan.Term
import AuditSearch.Sql.Scope

/-!
Clauses: the terms of a condition with the terms that are derived from them. A range has two ends, a
pattern a range of texts that start as it does, an equation of rows an equation for each part; two
conditions on the same values may be one weaker condition, and several equations a list of values.
-/
namespace AuditSearch.Sql

abbrev Clause :=
  List Term

def Comparison.exchanged : Comparison → Comparison
  | less => greater
  | atMost => atLeast
  | greater => less
  | atLeast => atMost
  | op => op

def Comparison.isOrdering : Comparison → Bool
  | less | atMost | greater | atLeast => true
  | _ => false

namespace Clause

/-- The side of a comparison that may be a column; of rows in order it is the first part. -/
def leading (op : Comparison) (e : Expr) : Expr :=
  match e.withoutCollation with
  | .row (first :: rest) => if op.isOrdering then first else .row (first :: rest)
  | e => e

/-- A column of the row that is not known to have one value. -/
def freeColumn? : Expr → Option ColumnRef
  | .column c => if c.level = 0 then some c else none
  | _ => none

/-- Whether an equation of two columns makes one as good as the other. -/
def isEquivalence (op : Comparison) (a b : Expr) : Bool :=
  (op == .equal || op == .same) &&
    (a.affinity? == b.affinity? ||
      ((a.affinity?.map Affinity.isNumeric).getD false && (b.affinity?.map Affinity.isNumeric).getD false)) &&
    Expr.collationOf a b == some .binary

/-- What a term that compares two sides limits, with the copy of it if both are columns. -/
def comparison (f : Facts) (count : Nat) (t : Term) (op : Comparison) (a b : Expr) : Term × List Term :=
  match Limit.ofComparison? op with
  | none => (t, [])
  | some limit =>
    let both := f.usesRow a && f.usesRow b
    let limited (l : Limit) : Option Limit := if both then none else some l
    let t := { t with rightUsesRow := f.usesRow b, collation := Expr.collationOf a b }
    let exchanged := op.exchanged
    let flipped := (Limit.ofComparison? exchanged).getD limit
    match (leading op a).rowColumn?, freeColumn? (leading op b) with
    | none, none => (t, [])
    | some c, none => ({ t with column := some c.column, limit := limited limit }, [])
    | none, some d =>
      ({ t with expr := .compare exchanged b a, column := some d.column, limit := limited flipped,
                rightUsesRow := f.usesRow a }, [])
    | some c, some d =>
      let equates := isEquivalence op a b
      let t := { t with column := some c.column, limit := limited limit, equates }
      ({ t with isCopied := true },
        [{ t with key := t.key.dropLast ++ [count], expr := .compare exchanged b a, column := some d.column,
                  limit := limited flipped, rightUsesRow := f.usesRow a, isDerived := true,
                  parent := some t.place }])

/-- What a term that asks for membership limits; the members use the row or they do not. -/
def membership (t : Term) (a : Expr) (membersUseRow leftUsesRow : Bool) : Term :=
  let t := { t with rightUsesRow := membersUseRow, collation := a.ownCollation }
  match t.part, a.withoutCollation with
  | some k, .row items =>
    match items[k]?.bind Expr.rowColumn? with
    | some c => { t with column := some c.column, limit := if membersUseRow && leftUsesRow then none else some .among }
    | none => t
  | none, e =>
    match e.rowColumn? with
    | some c => { t with column := some c.column, limit := if membersUseRow && leftUsesRow then none else some .among }
    | none => t
  | _, _ => t

def slices (count : Nat) (t : Term) (items : List Expr) : List Term :=
  (List.range items.length).map fun k =>
    { t with key := t.key.dropLast ++ [count + k], isDerived := true, isSlice := true, part := some k,
             parent := some t.place }

/-- Adds one to the last character of a text, which makes it come behind all texts that start with it. -/
def successor (s : String) : String :=
  match s.toList.reverse with
  | [] => s
  | c :: cs =>
    let n := c.toNat + 1
    String.ofList (cs.reverse ++ [Char.ofNat (if n = 0xD800 then 0xE000 else n)])

/-- The part of a pattern in front of the first wildcard, without escapes, and whether all wildcards behind
it are one for any run of characters at the end. -/
def patternStart (any : Char) (stops : List Char) (escape : Option Char) : List Char → List Char × Bool
  | [] => ([], false)
  | [c] =>
    if c = any then ([], true)
    else if stops.contains c || some c == escape then ([], false)
    else ([c], false)
  | c :: d :: ds =>
    if c = any || stops.contains c then ([], false)
    else if some c == escape then
      let (start, complete) := patternStart any stops escape ds
      (d :: start, complete)
    else
      let (start, complete) := patternStart any stops escape (d :: ds)
      (c :: start, complete)

def patternText? (f : Facts) (e : Expr) : Option String :=
  match e.withoutCollation with
  | .literal (.text s) => some s
  | .param i =>
    match f.params[i]? with
    | some (.text s) => some s
    | _ => none
  | _ => none

/-- A test with a pattern that starts with a text: its subject, the text, whether the test is that its
subject starts with it, and whether letter case matters. -/
def startTest? (f : Facts) (e : Expr) : Option (Expr × String × Bool × Bool) := do
  let (pattern, subject, escape, exact) ←
    match e with
    | .apply (.routine .glob) [pattern, subject] => some (pattern, subject, none, true)
    | .apply (.routine .like) [pattern, subject] => some (pattern, subject, none, false)
    | .apply (.routine .like) [pattern, subject, .literal (.text escape)] =>
      match escape.toList with
      | [c] =>
        if c = '%' || c = '_' || 0x80 ≤ c.toNat then none else some (pattern, subject, some c, false)
      | _ => none
    | _ => none
  let s ← patternText? f pattern
  let (start, complete) :=
    if exact then patternStart '*' ['?', '[', '\x00'] none s.toList
    else patternStart '%' ['_', '\x00'] escape s.toList
  if start.isEmpty then none
  else
    let start := String.ofList start
    let isText := (match subject with | .column _ | .fixed _ _ => true | _ => false) &&
      subject.affinity? == some .text
    let isNumber := (number? start).isSome || start == "-" || (number? (successor start)).isSome
    if !isText && isNumber then none else some (subject, start, complete, exact)

/-- The two ends of the range of texts that start with a text. -/
def patternEnds (f : Facts) (count : Nat) (t : Term) (subject : Expr) (start : String) (exact : Bool) :
    List Term :=
  let side := Expr.collate (if exact then "BINARY" else "NOCASE") subject
  let low := if exact then start else String.ofList (start.toList.map Char.toUpper)
  let high := successor (if exact then start else String.ofList (start.toList.map Char.toLower))
  let key (k : Nat) := t.key.dropLast ++ [count + k]
  [{ Term.derived f (key 0) (.compare .atLeast side (.literal (.text low))) with isPatternEnd := true },
    { Term.derived f (key 1) (.compare .less side (.literal (.text high))) with isPatternEnd := true }]

/-- Whether a text that starts with another one in either case is between its ends. -/
def isExactRange (start : String) (complete exact : Bool) : Bool :=
  complete && (exact || start.toList.getLast? != some '@')

/-- The terms of expressions, each looked at by `look`, the last one first. -/
def ofParts (f : Facts) (look : Clause → Nat → Clause) (key : List Nat) (parts : List Expr) : Clause :=
  let terms := parts.zipIdx.map fun (e, i) => Term.ofExpr f (key ++ [i]) e
  (List.range parts.length).reverse.foldl look terms

def subterms (t : Term) : List Term :=
  if t.isAnd then t.parts else [t]

/-- The comparison that holds if one of two comparisons of the same values does, if it is one. -/
def weaker? (a b : Comparison) : Option Comparison :=
  let fromAbove (c : Comparison) : Bool := c == .equal || c == .less || c == .atMost
  let fromBelow (c : Comparison) : Bool := c == .equal || c == .greater || c == .atLeast
  if a == b then (if fromAbove a || fromBelow a then some a else none)
  else if fromAbove a && fromAbove b then some .atMost
  else if fromBelow a && fromBelow b then some .atLeast
  else none

/-- The term that holds if one of two terms does, if they compare the same values. -/
def combined? (s t : Term) : Option Expr :=
  if s.isNotNull || t.isNotNull || s.limit.isNone || t.limit.isNone then none
  else
    match s.expr, t.expr with
    | .compare a x y, .compare b z w =>
      if x.same z && y.same w then (weaker? a b).map fun op => .compare op x y else none
    | _, _ => none

def branchLimits (branches : List Term) (t : Term) : Bool :=
  if t.isAnd then
    t.parts.any fun p =>
      p.column.isSome &&
        match p.expr with
        | .compare op _ _ => (Limit.ofComparison? op).isSome
        | .among _ _ | .amongRows _ _ | .apply .isNull [_] => true
        | _ => false
  else
    t.isCopied || t.column.isSome ||
      (t.isDerived && ((t.parent.bind fun i => branches[i]?).bind Term.column).isSome)

/-- The list of values that equations for one column are, if they are that. -/
def oneOf? (branches : List Term) : Option Expr := do
  let first ← branches.head?
  let column ← first.column
  let items ← branches.mapM fun t =>
    match t.expr with
    | .compare .equal a b =>
      if t.limit == some .equal && t.column == some column &&
          (b.affinity?.isNone || b.affinity? == a.affinity?) then some (a, b) else none
    | _ => none
  let (a, _) ← items.getLast?
  some (.among a (items.map (·.2)))

/-- Looks at the term at a place of a clause; `fuel` bounds how deep terms are in each other. -/
def look (f : Facts) (all : Bool) : Nat → Clause → Nat → Clause
  | 0, terms, _ => terms
  | fuel + 1, terms, i =>
    match terms[i]? with
    | none => terms
    | some t =>
      let outer := t.key.dropLast
      let count := terms.length
      let add (ts : Clause) (more : List Term) : Clause :=
        more.foldl (fun ts (m : Term) =>
          look f all fuel (ts ++ [{ m with key := outer ++ [ts.length] }]) ts.length) ts
      match t.expr with
      | .compare op a b =>
        let (t, copies) := comparison f count t op a b
        let terms := terms.set i t ++ copies
        match a, b with
        | .row as, .row bs =>
          -- Rows are equal if all their parts are, so the terms of the parts stand for that of the rows.
          if all && (op == .equal || op == .same) then
            let parts := (as.zip bs).map fun (x, y) =>
              { Term.ofExpr f [] (.compare op x y) with isSlice := true }
            (add terms parts).set i { t with isReplaced := true, isDerived := true, limit := none }
          else terms
        | _, _ => terms
      | .among a items =>
        let t := membership t a (items.any f.usesRow) (f.usesRow a)
        match t.part, a with
        | none, .row as =>
          if all then
            let more := (slices count t as).map fun s =>
              membership s a (items.any f.usesRow) (f.usesRow a)
            terms.set i t ++ more
          else terms.set i t
        | _, _ => terms.set i t
      | .amongRows a q =>
        let useRow := (f.outer q.number).any fun c => c.level == 0
        let t := membership t a useRow (f.usesRow a)
        match t.part, a with
        | none, .row as =>
          if all then
            let more := (slices count t as).map fun s => membership s a useRow (f.usesRow a)
            terms.set i t ++ more
          else terms.set i t
        | _, _ => terms.set i t
      | .apply .isNull [a] =>
        let side := a.withoutCollation
        match side.rowColumn? with
        | some c =>
          -- A column that is never null makes the test constant.
          if side.mayBeNull then terms.set i { t with column := some c.column, limit := some .null }
          else
            terms.set i { t with column := some c.column, expr := .coalesce [.literal (.integer 0)],
                                 usesRow := false }
        | none => terms
      | .apply .isNotNull [a] =>
        match a.rowColumn? with
        | some c =>
          -- Null comes before all other values, so a value that is not null is greater.
          if c.isRowId then terms
          else
            terms.set i { t with isCopied := true } ++
              [{ t with key := outer ++ [count], expr := .compare .greater a (.literal .null),
                        column := some c.column, limit := some .greater, collation := some .binary,
                        isDerived := true, isNotNull := true, parent := some i }]
        | none => terms
      | .between a low high =>
        if all then
          [(Comparison.atLeast, low), (.atMost, high)].foldl (fun ts (op, e) =>
            let k := ts.length
            let ts := add ts [Term.derived f [] (.compare op a e)]
            ts.modify k fun child => { child with parent := some i, odds := t.odds }) terms
        else terms
      | .or a b =>
        if all then
          let branches := ofParts f (look f false fuel) t.key (a.disjuncts ++ b.disjuncts)
          let branches := branches.map fun b =>
            if b.limit.isSome then b
            else { b with parts := ofParts f (look f true fuel) b.key b.expr.conjuncts, column := none }
          let isIndexable := branches.all (branchLimits branches)
          let terms := terms.set i { t with branches, isIndexable }
          -- Two branches that compare the same values may be one comparison, and equations of one column one list.
          let pairs :=
            match branches with
            | [x, y] => if isIndexable then (subterms x).flatMap fun s => (subterms y).map fun u => (s, u) else []
            | _ => []
          let terms := add terms ((pairs.filterMap fun (s, u) => combined? s u).map (Term.derived f []))
          match if isIndexable then oneOf? branches else none with
          | none => terms
          | some e =>
            let k := terms.length
            (add terms [Term.derived f [] e]).modify k fun child =>
              { child with parent := some i, odds := t.odds }
        else terms
      | e =>
        match if all then startTest? f e else none with
        | none => terms
        | some (subject, start, complete, exact) =>
          let ends := patternEnds f count t subject start exact
          let ends :=
            if isExactRange start complete exact then
              ends.map fun c => { c with parent := some i, odds := t.odds }
            else ends
          [count, count + 1].foldl (look f all fuel) (terms ++ ends)

def ofExpr (f : Facts) (e : Expr) : Clause :=
  let parts := e.conjuncts
  ofParts f (look f true (2 * maxHeight)) [] parts

end Clause

end AuditSearch.Sql
