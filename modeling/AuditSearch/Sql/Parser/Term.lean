import AuditSearch.Sql.Expr
import AuditSearch.Sql.Token

/-!
What the parts of a clause make together: calls, signs, tests, and operands of one token.
-/
namespace AuditSearch.Sql

/-- A name without the case of its ASCII letters. -/
def foldName (written : String) : String :=
  String.ofList (Text.asciiFold written.toList)

def patternWord? : Token → Option String
  | .like => some "like"
  | .glob => some "glob"
  | .matchWord => some "match"
  | .regexp => some "regexp"
  | _ => none

/-- The name that a keyword is where it cannot be a keyword. -/
def spareName? : Token → Option String
  | .ascWord => some "asc"
  | .byWord => some "by"
  | .castWord => some "cast"
  | .descWord => some "desc"
  | .endWord => some "end"
  | .nullsWord => some "nulls"
  | .offsetWord => some "offset"
  | .withWord => some "with"
  | t => patternWord? t

/-- The name that a word between sources is where it is not between sources. -/
def joinName? : Token → Option String
  | .crossWord => some "cross"
  | .fullWord => some "full"
  | .innerWord => some "inner"
  | .leftWord => some "left"
  | .naturalWord => some "natural"
  | .outerWord => some "outer"
  | .rightWord => some "right"
  | .indexedWord => some "indexed"
  | _ => none

/-- The name that a token may be where a name may stand without a word that asks for one. -/
def bareName? : Token → Option String
  | .name s | .quotedName s | .enclosedName s | .text s => some s
  | t => spareName? t

/-- The name that a token may be where only a name may stand. -/
def partName? (t : Token) : Option String :=
  (bareName? t).or (joinName? t)

/-- The names of functions that are called without parentheses. -/
def clockNames : List String :=
  ["current_date", "current_time", "current_timestamp"]

/-- Whether a token starts an operand of another kind than a name, if it starts one. The word for raising an
error only stands in triggers. -/
def startsOther : Token → Bool
  | .name s => (clockNames ++ ["raise"]).contains (foldName s)
  | .castWord => true
  | _ => false

def calledName? (t : Token) : Option String :=
  match t with
  | .text _ => none
  | t => if startsOther t then none else partName? t

/-- A call of a function by name with arguments alone. -/
def calling (written : String) (args : List Expr) : Expr :=
  .call written (.ofArguments args.length) args

def nameExpr? (written : String) : Option Expr :=
  if clockNames.contains (foldName written) then some (calling written [])
  else if startsOther (.name written) then none
  else some (.name ⟨[], written, .bare⟩)

/-- A plus sign in front of an expression; one stands for several. -/
def plain : Expr → Expr
  | .apply .plain args => .apply .plain args
  | e => .apply .plain [e]

/-- A minus sign in front of an expression. That of an integer belongs to it. -/
def negated : Expr → Expr
  | .literal (.integer n) =>
    if 0 < n then .literal (.integer (-n)) else .apply .negate [.literal (.integer n)]
  | .apply .plain args => .apply .negate args
  | e => .apply .negate [e]

/-- What is written as a number that has too many bits: a call of a function that there is not. -/
def oversized : Expr :=
  calling "" []

/-- Whether tokens start with the number, in parentheses or not, that has the bits of the least integer. -/
def startsWithLeastBits (ts : List Token) : Bool :=
  (ts.dropWhile (· == .leftParen)).head? == some (.hexInteger leastMagnitude)

/-- A minus sign in front of the expression that tokens start with. The opposite of the least integer is not
written by its bits. -/
def negatedAt (ts : List Token) (e : Expr) : Expr :=
  match e with
  | .literal (.integer n) => if n < 0 && startsWithLeastBits ts then oversized else negated e
  | e => negated e

/-- The test whether two values are the same. -/
def sameness (a b : Expr) : Expr :=
  match b with
  | .literal .null => .apply .isNull [a]
  | _ => .compare .same a b

/-- The opposite test. -/
def difference (a b : Expr) : Expr :=
  match b with
  | .literal .null => .apply .isNotNull [a]
  | _ => .compare .notSame a b

/-- Whether an expression is written as zero, or is membership in an empty list. -/
def isZero : Expr → Bool
  | .literal (.integer 0) => true
  | .truth false => true
  | _ => false

/-- A conjunction, which is false if one side is written so, whatever the other side is. -/
def conjunction (a b : Expr) : Expr :=
  if isZero a || isZero b then .literal (.integer 0) else .and a b

namespace Expr

mutual

/-- Whether an expression is made of literals by operators and by functions of their arguments alone. -/
def isConstantAsWritten : Expr → Bool
  | literal _ | truth _ | param _ => true
  | .name n => n.qualifiers.isEmpty && n.quoting == .bare && ["true", "false"].contains (foldName n.written)
  | call written shape args =>
    shape.isBare && isConstantName (foldName written) args.length && areConstantAsWritten args
  | apply _ args | coalesce args | cases args | row args => areConstantAsWritten args
  | compare _ a b | and a b | or a b => a.isConstantAsWritten && b.isConstantAsWritten
  | between a low high =>
    a.isConstantAsWritten && low.isConstantAsWritten && high.isConstantAsWritten
  | among a items | choose a items => a.isConstantAsWritten && areConstantAsWritten items
  | not a | collate _ a => a.isConstantAsWritten
  | column _ | fixed _ _ | aggregate _ _ _ | amongRows _ _ | query _ | hasRows _ => false

def areConstantAsWritten : List Expr → Bool
  | [] => true
  | e :: es => e.isConstantAsWritten && areConstantAsWritten es

end

end Expr

/-- Membership in a list. Nothing is in an empty list, and membership in a list of one constant is an
equation with it. -/
def inList (a : Expr) (items : List Expr) : Expr :=
  match items with
  | [] => .truth false
  | [.query q] => .amongRows a q
  | [e] =>
    match a with
    | .row _ => .among a [e]
    | _ => if e.isConstantAsWritten then .compare .equal a (plain e) else .among a [e]
  | items => .among a items

def membership (opposite : Bool) (a : Expr) (items : List Expr) : Expr :=
  if items.isEmpty then .truth opposite else if opposite then .not (inList a items) else inList a items

def patternTest (written : String) (subject pattern : Expr) (escape : List Expr) : Expr :=
  calling written (pattern :: subject :: escape)

def notStrength : Nat :=
  3

def testStrength : Nat :=
  4

def collateStrength : Nat :=
  11

def signStrength : Nat :=
  12

def operation (op : Operator) (a b : Expr) : Expr :=
  .apply (.operator op) [a, b]

/-- The call that an arrow between a document and a path stands for. -/
def arrow (toValue : Bool) (a b : Expr) : Expr :=
  calling (if toValue then "->>" else "->") [a, b]

/-- The binding strength of an operator between two operands, and what it makes of them. -/
def operator? : Token → Option (Nat × (Expr → Expr → Expr))
  | .or => some (1, .or)
  | .and => some (2, conjunction)
  | .equal => some (testStrength, .compare .equal)
  | .notEqual => some (testStrength, .compare .notEqual)
  | .less => some (5, .compare .less)
  | .atMost => some (5, .compare .atMost)
  | .greater => some (5, .compare .greater)
  | .atLeast => some (5, .compare .atLeast)
  | .bitAnd => some (7, operation .bitAnd)
  | .bitOr => some (7, operation .bitOr)
  | .shiftLeft => some (7, operation .shiftLeft)
  | .shiftRight => some (7, operation .shiftRight)
  | .plus => some (8, operation .add)
  | .minus => some (8, operation .subtract)
  | .times => some (9, operation .multiply)
  | .divide => some (9, operation .divide)
  | .remainder => some (9, operation .remainder)
  | .concat => some (10, operation .concatenate)
  | .arrow toValue => some (10, arrow toValue)
  | _ => none

/-- Splits off the qualifiers at the start of a list; `seen` holds those in front of it, last one first. -/
def qualified (seen : List String) : List Token → Option (Name × List Token)
  | .dot :: t :: ts =>
    match partName? t, seen with
    | some s, q :: qs =>
      match ts with
      | .dot :: _ => qualified (s :: q :: qs) ts
      | _ => if 1 < qs.length then none else some (⟨(q :: qs).reverse, s, .bare⟩, ts)
    | _, _ => none
  | _ => none

def atom? : List Token → Option (Expr × List Token)
  | t :: .dot :: ts =>
    if startsOther t then none
    else do
      let (n, rest) ← qualified [← partName? t] (.dot :: ts)
      some (.name n, rest)
  | .name s :: ts => (nameExpr? s).map fun e => (e, ts)
  | .quotedName s :: ts => some (.name ⟨[], s, .doubleQuotes⟩, ts)
  | .enclosedName s :: ts => some (.name ⟨[], s, .enclosed⟩, ts)
  | .null :: ts => some (.literal .null, ts)
  | .integer n :: ts => some (.literal (.integer n), ts)
  | .hexInteger n :: ts =>
    some (if n < UInt64.size then .literal (.integer (Int64.ofInt n).toInt) else oversized, ts)
  | .real r :: ts => some (.literal (.real r), ts)
  | .text s :: ts => some (.literal (.text s), ts)
  | .blob bytes :: ts => some (.literal (.blob bytes), ts)
  | .param i :: ts => some (.param i, ts)
  | .leftParen :: .query n :: .rightParen :: ts => some (.query ⟨n, []⟩, ts)
  | .existsWord :: .leftParen :: .query n :: .rightParen :: ts => some (.hasRows n, ts)
  | t :: ts => if startsOther t then none else (partName? t).map fun s => (.name ⟨[], s, .bare⟩, ts)
  | [] => none

def typeWords : List Token → List String × List Token
  | [] => ([], [])
  | t :: ts =>
    match bareName? t with
    | none => ([], t :: ts)
    | some s =>
      let (ws, rest) := typeWords ts
      (s :: ws, rest)

def signedNumber? : List Token → Option (List Token)
  | .plus :: .integer _ :: ts | .minus :: .integer _ :: ts | .integer _ :: ts => some ts
  | .plus :: .real _ :: ts | .minus :: .real _ :: ts | .real _ :: ts => some ts
  | _ => none

/-- A type name up to the closing parenthesis around it; it may have one or two numbers. -/
def typeName? (ts : List Token) : Option (Affinity × List Token) :=
  let (ws, rest) := typeWords ts
  let affinity := Affinity.ofTypeName (" ".intercalate ws)
  match rest with
  | .rightParen :: rest => some (affinity, rest)
  | .leftParen :: rest =>
    if ws.isEmpty then none
    else
      match signedNumber? rest with
      | some (.rightParen :: .rightParen :: rest) => some (affinity, rest)
      | some (.comma :: rest) =>
        match signedNumber? rest with
        | some (.rightParen :: .rightParen :: rest) => some (affinity, rest)
        | _ => none
      | _ => none
  | _ => none

/-- A test of `e` that stands behind it and has no operand of its own. -/
def suffix? (e : Expr) : List Token → Option (Expr × List Token)
  | .isNull :: ts => some (.apply .isNull [e], ts)
  | .notNull :: ts => some (.apply .isNotNull [e], ts)
  | .not :: .null :: ts => some (.apply .isNotNull [e], ts)
  | _ => none

def isTest? : List Token → Option ((Expr → Expr → Expr) × List Token)
  | .is :: .not :: .distinctWord :: .fromWord :: ts => some (sameness, ts)
  | .is :: .distinctWord :: .fromWord :: ts => some (difference, ts)
  | .is :: .not :: ts => some (difference, ts)
  | .is :: ts => some (sameness, ts)
  | _ => none

/-- A word in front of a test that makes it the opposite one. -/
def opposite? : List Token → Bool × List Token
  | .not :: ts => (true, ts)
  | ts => (false, ts)

def oppositeIf (flag : Bool) (e : Expr) : Expr :=
  if flag then .not e else e

def isWord (word : String) : Token → Bool
  | .name s => foldName s == word
  | _ => false

def direction? (ts : List Token) : Option (Direction × List Token) :=
  let (descending, ts) : Bool × List Token :=
    match ts with
    | .ascWord :: ts => (false, ts)
    | .descWord :: ts => (true, ts)
    | ts => (false, ts)
  match ts with
  | .nullsWord :: .name s :: ts =>
    match foldName s with
    | "first" => some (⟨descending, false⟩, ts)
    | "last" => some (⟨descending, true⟩, ts)
    | _ => none
  | .nullsWord :: _ => none
  | ts => some (⟨descending, descending⟩, ts)

/-- Expressions that are ordered by, with their directions. -/
abbrev Ordered :=
  List (Expr × Direction)

def windowWords : List String :=
  ["partition", "rows", "range", "groups"]

/-- The name of a window behind the word that asks for one, which is not every name. -/
def windowName? (t : Token) : Option String :=
  if isWord "filter" t || t == .indexedWord then none else partName? t

/-- Reads the name of the window that another one takes the rest from. There may be none. -/
def windowBase : List Token → Option String × List Token
  | .name s :: ts => if windowWords.contains (foldName s) then (none, .name s :: ts) else (some (foldName s), ts)
  | t :: ts =>
    match partName? t with
    | some s => (some (foldName s), ts)
    | none => (none, t :: ts)
  | [] => (none, [])

def distance? : List Token → Option (Distance × List Token)
  | .name s :: ts =>
    match foldName s with
    | "rows" => some (.rows, ts)
    | "range" => some (.values, ts)
    | "groups" => some (.groups, ts)
    | _ => none
  | _ => none

def exclusion? : List Token → Option (Exclusion × List Token)
  | t :: u :: ts =>
    if !isWord "exclude" t then some (.nothing, t :: u :: ts)
    else if isWord "ties" u then some (.ties, ts)
    else if u == .groupWord then some (.group, ts)
    else
      match ts with
      | v :: ts =>
        if isWord "no" u && isWord "others" v then some (.nothing, ts)
        else if isWord "current" u && isWord "row" v then some (.current, ts)
        else none
      | [] => none
  | ts => some (.nothing, ts)

/-- Reads an end of an extent that is the row itself or has no row beyond it, which `beyond` is. -/
def nearEnd? (beyond : ExtentEnd) : List Token → Option (ExtentEnd × List Token)
  | t :: u :: ts =>
    if isWord "current" t && isWord "row" u then some (.current, ts)
    else if isWord "unbounded" t && isWord (if beyond == .start then "preceding" else "following") u then
      some (beyond, ts)
    else none
  | _ => none

/-- Whether tokens start with a word that only starts such an end. -/
def startsNearEnd (ts : List Token) : Bool :=
  ts.head?.any fun t => isWord "current" t || isWord "unbounded" t

def farEnd? : List Token → Option (ExtentEnd × List Token)
  | t :: ts =>
    if isWord "preceding" t then some (.before, ts)
    else if isWord "following" t then some (.behind, ts)
    else none
  | [] => none

/-- The form of a call, which the word in front of its arguments may say, and the arguments. -/
def callForm : List Token → CallForm × List Token
  | .distinctWord :: ts => (.distinct, ts)
  | .allWord :: ts => (.plain, ts)
  | ts => (.plain, ts)

end AuditSearch.Sql
