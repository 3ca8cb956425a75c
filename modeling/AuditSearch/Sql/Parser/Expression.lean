import AuditSearch.Sql.Parser.Term

/-!
Parsing of expressions by binding strength. Operators of one strength group from the left. From the
loosest to the tightest they are: or, and, not, the tests (equality, null, membership, likeness,
range), order, the operations on bits, sums, products, concatenation, collation, and signs.
-/
namespace AuditSearch.Sql

/-- A call has this many arguments at most. -/
def maxArguments : Nat :=
  127

mutual

/-- Reads an expression whose operators bind with `strength` at least. -/
def expression : Nat → Nat → List Token → Option (Expr × List Token)
  | 0, _, _ => none
  | fuel + 1, strength, .not :: ts =>
    match expression fuel notStrength ts with
    | none => none
    | some (e, rest) => further fuel strength (.not e) rest
  | fuel + 1, strength, .minus :: ts =>
    match expression fuel signStrength ts with
    | none => none
    | some (e, rest) => further fuel strength (negatedAt ts e) rest
  | fuel + 1, strength, .plus :: ts =>
    match expression fuel signStrength ts with
    | none => none
    | some (e, rest) => further fuel strength (plain e) rest
  | fuel + 1, strength, .complement :: ts =>
    match expression fuel signStrength ts with
    | none => none
    | some (e, rest) => further fuel strength (.apply .complement [e]) rest
  | fuel + 1, strength, .leftParen :: .query n :: .rightParen :: ts => further fuel strength (.query ⟨n, []⟩) ts
  | fuel + 1, strength, .leftParen :: ts =>
    match expression fuel 0 ts with
    | some (e, .rightParen :: rest) => further fuel strength e rest
    | some (e, .comma :: rest) =>
      match expressions fuel [e] rest with
      | none => none
      | some (items, rest) => further fuel strength (.row items) rest
    | _ => none
  | fuel + 1, strength, .castWord :: .leftParen :: ts =>
    match expression fuel 0 ts with
    | some (e, .asWord :: rest) =>
      match typeName? rest with
      | some (type, rest) => further fuel strength (.apply (.cast type) [e]) rest
      | none => none
    | _ => none
  | fuel + 1, strength, .caseWord :: ts =>
    match caseBase fuel ts with
    | none => none
    | some (base, rest) =>
      match caseBranches fuel [] rest with
      | none => none
      | some (branches, rest) =>
        further fuel strength (((base.map Expr.choose).getD Expr.cases) branches) rest
  | fuel + 1, strength, .existsWord :: .leftParen :: .query n :: .rightParen :: ts =>
    further fuel strength (.hasRows n) ts
  | fuel + 1, strength, t :: .leftParen :: ts =>
    match calledName? t, ts with
    | none, _ => none
    | some name, .times :: .rightParen :: rest =>
      callEnd fuel strength name { CallShape.ofArguments 0 with form := .star } [] rest
    | some name, ts =>
      let (form, ts) := callForm ts
      match arguments fuel [] ts with
      | none => none
      | some (args, order, rest) =>
        if maxArguments < args.length then none
        else
          let order := if args.isEmpty then [] else order
          callEnd fuel strength name { CallShape.ofArguments args.length with form, order := order.map (·.2) }
            (args ++ order.map (·.1)) rest
  | fuel + 1, strength, ts =>
    match atom? ts with
    | none => none
    | some (e, rest) => further fuel strength e rest

/-- Reads expressions with commas between them up to the closing parenthesis, behind those in `done`,
last one first. -/
def expressions : Nat → List Expr → List Token → Option (List Expr × List Token)
  | 0, _, _ => none
  | fuel + 1, done, ts =>
    match expression fuel 0 ts with
    | some (e, .rightParen :: rest) => some ((e :: done).reverse, rest)
    | some (e, .comma :: rest) => expressions fuel (e :: done) rest
    | _ => none

/-- Reads the arguments of a call up to the closing parenthesis, behind those in `done`, last one first, and
what the rows are ordered by. -/
def arguments : Nat → List Expr → List Token → Option (List Expr × Ordered × List Token)
  | 0, _, _ => none
  | _ + 1, done, .rightParen :: ts => if done.isEmpty then some ([], [], ts) else none
  | fuel + 1, [], .orderWord :: .byWord :: ts =>
    match orderTerms fuel [] ts with
    | some (order, .rightParen :: rest) => some ([], order, rest)
    | _ => none
  | fuel + 1, done, ts =>
    match expression fuel 0 ts with
    | some (e, .rightParen :: rest) => some ((e :: done).reverse, [], rest)
    | some (e, .orderWord :: .byWord :: rest) =>
      match orderTerms fuel [] rest with
      | some (order, .rightParen :: rest) => some ((e :: done).reverse, order, rest)
      | _ => none
    | some (e, .comma :: rest) => arguments fuel (e :: done) rest
    | _ => none

/-- Reads what rows are ordered by, behind what is in `done`, last one first. -/
def orderTerms : Nat → Ordered → List Token → Option (Ordered × List Token)
  | 0, _, _ => none
  | fuel + 1, done, ts =>
    match expression fuel 0 ts with
    | none => none
    | some (e, rest) =>
      match direction? rest with
      | some (d, .comma :: rest) => orderTerms fuel ((e, d) :: done) rest
      | some (d, rest) => some (((e, d) :: done).reverse, rest)
      | none => none

/-- Reads what stands behind the arguments of a call: a condition on its rows, and a window. -/
def callEnd : Nat → Nat → String → CallShape → List Expr → List Token → Option (Expr × List Token)
  | 0, _, _, _, _, _ => none
  | fuel + 1, strength, name, shape, es, t :: .leftParen :: ts =>
    if isWord "filter" t then
      match ts with
      | .whereWord :: ts =>
        match expression fuel 0 ts with
        | some (e, .rightParen :: rest) => callWindow fuel strength name { shape with isFiltered := true } (es ++ [e]) rest
        | _ => none
      | _ => none
    else callWindow fuel strength name shape es (t :: .leftParen :: ts)
  | fuel + 1, strength, name, shape, es, ts => callWindow fuel strength name shape es ts

def callWindow : Nat → Nat → String → CallShape → List Expr → List Token → Option (Expr × List Token)
  | 0, _, _, _, _, _ => none
  | fuel + 1, strength, name, shape, es, t :: u :: ts =>
    if isWord "over" t then
      match u, windowName? u with
      | .leftParen, _ =>
        match window fuel ts with
        | some (w, more, rest) => further fuel strength (.call name { shape with window := some w } (es ++ more)) rest
        | none => none
      | _, some base =>
        further fuel strength (.call name { shape with window := some ⟨some (foldName base), true, 0, [], none⟩ } es) ts
      | _, none => further fuel strength (.call name shape es) (t :: u :: ts)
    else further fuel strength (.call name shape es) (t :: u :: ts)
  | fuel + 1, strength, name, shape, es, ts => further fuel strength (.call name shape es) ts

def window : Nat → List Token → Option (Window × List Expr × List Token)
  | 0, _ => none
  | fuel + 1, ts =>
    let (base, ts) := windowBase ts
    match windowParts fuel ts with
    | none => none
    | some (parts, ts) =>
      match windowOrder fuel ts with
      | none => none
      | some (order, ts) =>
        let w : Window := ⟨base, false, parts.length, order.map (·.2), none⟩
        let es := parts ++ order.map (·.1)
        match ts with
        | .rightParen :: rest => some (w, es, rest)
        | ts =>
          match extent fuel ts with
          | some (e, far, .rightParen :: rest) =>
            if e.isProper then some ({ w with extent := some e }, es ++ far, rest) else none
          | _ => none

def windowParts : Nat → List Token → Option (List Expr × List Token)
  | 0, _ => none
  | fuel + 1, t :: .byWord :: ts =>
    if isWord "partition" t then partTerms fuel [] ts else some ([], t :: .byWord :: ts)
  | _ + 1, ts => some ([], ts)

def partTerms : Nat → List Expr → List Token → Option (List Expr × List Token)
  | 0, _, _ => none
  | fuel + 1, done, ts =>
    match expression fuel 0 ts with
    | some (e, .comma :: rest) => partTerms fuel (e :: done) rest
    | some (e, rest) => some ((e :: done).reverse, rest)
    | none => none

def windowOrder : Nat → List Token → Option (Ordered × List Token)
  | 0, _ => none
  | fuel + 1, .orderWord :: .byWord :: ts => orderTerms fuel [] ts
  | _ + 1, ts => some ([], ts)

def extent : Nat → List Token → Option (Extent × List Expr × List Token)
  | 0, _ => none
  | fuel + 1, ts =>
    match distance? ts with
    | none => none
    | some (d, .between :: ts) =>
      match extentEnd fuel .start ts with
      | some (first, far, .and :: ts) =>
        match extentEnd fuel .stop ts with
        | some (last, more, ts) =>
          (exclusion? ts).map fun (x, rest) => (⟨d, first, last, x⟩, far ++ more, rest)
        | none => none
      | _ => none
    | some (d, ts) =>
      match extentEnd fuel .start ts with
      | some (first, far, ts) => (exclusion? ts).map fun (x, rest) => (⟨d, first, .current, x⟩, far, rest)
      | none => none

def extentEnd : Nat → ExtentEnd → List Token → Option (ExtentEnd × List Expr × List Token)
  | 0, _, _ => none
  | fuel + 1, beyond, ts =>
    match nearEnd? beyond ts, startsNearEnd ts with
    | some (e, rest), _ => some (e, [], rest)
    | none, true => none
    | none, false =>
      match expression fuel 0 ts with
      | none => none
      | some (far, rest) => (farEnd? rest).map fun (e, rest) => (e, [far], rest)

def caseBase : Nat → List Token → Option (Option Expr × List Token)
  | 0, _ => none
  | _ + 1, .whenWord :: ts => some (none, .whenWord :: ts)
  | fuel + 1, ts => (expression fuel 0 ts).map fun (e, rest) => (some e, rest)

def caseBranches : Nat → List Expr → List Token → Option (List Expr × List Token)
  | 0, _, _ => none
  | fuel + 1, done, .whenWord :: ts =>
    match expression fuel 0 ts with
    | some (condition, .thenWord :: rest) =>
      match expression fuel 0 rest with
      | some (result, rest) => caseBranches fuel (result :: condition :: done) rest
      | none => none
    | _ => none
  | fuel + 1, done, .elseWord :: ts =>
    match expression fuel 0 ts with
    | some (e, .endWord :: rest) =>
      if done.isEmpty then none else some ((e :: done).reverse, rest)
    | _ => none
  | _ + 1, done, .endWord :: ts => if done.isEmpty then none else some (done.reverse, ts)
  | _, _, _ => none

/-- Goes on behind the expression `e` with operators that bind with `strength` at least. -/
def further : Nat → Nat → Expr → List Token → Option (Expr × List Token)
  | 0, _, _, _ => none
  | _ + 1, _, e, [] => some (e, [])
  | fuel + 1, strength, e, .collate :: ts =>
    if collateStrength < strength then some (e, .collate :: ts)
    else
      match ts with
      | t :: rest =>
        match bareName? t with
        | some s => further fuel strength (.collate s e) rest
        | none => none
      | [] => none
  | fuel + 1, strength, e, t :: ts =>
    match operator? t with
    | some (own, join) =>
      if own < strength then some (e, t :: ts)
      else
        match expression fuel (own + 1) ts with
        | none => none
        | some (f, rest) => further fuel strength (join e f) rest
    | none =>
      if testStrength < strength then some (e, t :: ts)
      else
        match suffix? e (t :: ts), isTest? (t :: ts) with
        | some (f, rest), _ => further fuel strength f rest
        | none, some (join, rest) =>
          match expression fuel (testStrength + 1) rest with
          | none => none
          | some (f, rest) => further fuel strength (join e f) rest
        | none, none => test fuel strength e (t :: ts)

/-- Goes on behind the expression `e` with a test that may have a word in front that makes it the
opposite one. -/
def test : Nat → Nat → Expr → List Token → Option (Expr × List Token)
  | 0, _, _, _ => none
  | fuel + 1, strength, e, ts =>
    match opposite? ts with
    | (flag, .isIn :: .leftParen :: .rightParen :: rest) =>
      further fuel strength (membership flag e []) rest
    | (flag, .isIn :: .leftParen :: .query n :: .rightParen :: rest) =>
      further fuel strength (oppositeIf flag (.amongRows e ⟨n, []⟩)) rest
    | (flag, .isIn :: .leftParen :: rest) =>
      match expressions fuel [] rest with
      | none => none
      | some (items, rest) =>
        further fuel strength (membership flag e items) rest
    | (flag, .between :: rest) =>
      match expression fuel notStrength rest with
      | some (low, .and :: rest) =>
        match expression fuel (testStrength + 1) rest with
        | none => none
        | some (high, rest) => further fuel strength (oppositeIf flag (.between e low high)) rest
      | _ => none
    | (flag, t :: rest) =>
      match patternWord? t with
      | none => if flag then none else some (e, ts)
      | some word =>
        match expression fuel (testStrength + 1) rest with
        | some (pattern, .escape :: rest) =>
          match expression fuel (testStrength + 1) rest with
          | none => none
          | some (escape, rest) =>
            further fuel strength (oppositeIf flag (patternTest word e pattern [escape])) rest
        | some (pattern, rest) =>
          further fuel strength (oppositeIf flag (patternTest word e pattern [])) rest
        | none => none
    | (_, []) => none

end

/-- Reads the expression at the start of a list. Each step takes a token or hands over to one that does. -/
def leadingExpr? (ts : List Token) : Option (Expr × List Token) :=
  expression (6 * ts.length + 6) 0 ts

def parse? (ts : List Token) : Option Expr :=
  match leadingExpr? ts with
  | some (e, []) => some e
  | _ => none

end AuditSearch.Sql
