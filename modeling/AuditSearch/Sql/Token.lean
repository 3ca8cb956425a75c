import AuditSearch.Sql.Number

/-!
The tokens of a clause and their scanner. Keywords are read in either case, and comments stand where
spaces may stand.
-/
namespace AuditSearch.Sql

inductive Token where
  | name (written : String)
  | quotedName (written : String)
  /-- A name in brackets or backticks. -/
  | enclosedName (written : String)
  | integer (value : Nat)
  | hexInteger (value : Nat)
  | real (value : Real)
  | text (content : String)
  | blob (bytes : List UInt8)
  | param (index : Nat)
  | and
  | or
  | not
  | is
  | null
  | isNull
  | notNull
  | isIn
  | like
  | glob
  | matchWord
  | regexp
  | escape
  | between
  | collate
  | castWord
  | asWord
  | distinctWord
  | allWord
  | fromWord
  | caseWord
  | whenWord
  | thenWord
  | elseWord
  | endWord
  | selectWord
  | valuesWord
  | existsWord
  | whereWord
  | groupWord
  | byWord
  | havingWord
  | orderWord
  | ascWord
  | descWord
  | nullsWord
  | limitWord
  | offsetWord
  | unionWord
  | exceptWord
  | intersectWord
  | joinWord
  | leftWord
  | outerWord
  | innerWord
  | crossWord
  | rightWord
  | fullWord
  | naturalWord
  | usingWord
  | onWord
  | withWord
  | indexedWord
  /-- A word of statements that are no queries. It is no name. -/
  | reserved
  /-- A query that stands in parentheses, by its number. -/
  | query (number : Nat)
  | leftParen
  | rightParen
  | comma
  | dot
  | plus
  | minus
  | times
  | divide
  | remainder
  | bitAnd
  | bitOr
  | shiftLeft
  | shiftRight
  | complement
  | concat
  /-- The sign in front of a path into a document, which makes a document or a value. -/
  | arrow (toValue : Bool)
  | equal
  | notEqual
  | less
  | atMost
  | greater
  | atLeast
  /-- The end of the statement that the clause is put into, in front of the order it asks for. -/
  | stop
  deriving DecidableEq

/-- The spaces that a run of spaces starts with. -/
def startsSpaces (c : Char) : Bool :=
  (isSpace c && c != '\x0b') || c == '\uFEFF'

def isNameStart (c : Char) : Bool :=
  c.isAlpha || c == '_' || decide (0x80 ≤ c.toNat)

def isNameChar (c : Char) : Bool :=
  isNameStart c || Text.isDigit c || c == '$'

/-- The words of statements that are no queries, as far as they are no names. -/
def reservedWords : List String :=
  ["ADD", "ALTER", "AUTOINCREMENT", "CHECK", "COMMIT", "CONSTRAINT", "CREATE", "DEFAULT", "DEFERRABLE", "DELETE",
    "DROP", "FOREIGN", "INDEX", "INSERT", "INTO", "NOTHING", "PRIMARY", "REFERENCES", "RETURNING", "SET", "TABLE",
    "TO", "TRANSACTION", "UNIQUE", "UPDATE"]

def wordToken (word : List Char) : Token :=
  match String.ofList (word.map Char.toUpper) with
  | "AND" => .and
  | "OR" => .or
  | "NOT" => .not
  | "IS" => .is
  | "NULL" => .null
  | "ISNULL" => .isNull
  | "NOTNULL" => .notNull
  | "IN" => .isIn
  | "LIKE" => .like
  | "GLOB" => .glob
  | "MATCH" => .matchWord
  | "REGEXP" => .regexp
  | "ESCAPE" => .escape
  | "BETWEEN" => .between
  | "COLLATE" => .collate
  | "CAST" => .castWord
  | "AS" => .asWord
  | "DISTINCT" => .distinctWord
  | "ALL" => .allWord
  | "FROM" => .fromWord
  | "CASE" => .caseWord
  | "WHEN" => .whenWord
  | "THEN" => .thenWord
  | "ELSE" => .elseWord
  | "END" => .endWord
  | "SELECT" => .selectWord
  | "VALUES" => .valuesWord
  | "EXISTS" => .existsWord
  | "WHERE" => .whereWord
  | "GROUP" => .groupWord
  | "BY" => .byWord
  | "HAVING" => .havingWord
  | "ORDER" => .orderWord
  | "ASC" => .ascWord
  | "DESC" => .descWord
  | "NULLS" => .nullsWord
  | "LIMIT" => .limitWord
  | "OFFSET" => .offsetWord
  | "UNION" => .unionWord
  | "EXCEPT" => .exceptWord
  | "INTERSECT" => .intersectWord
  | "JOIN" => .joinWord
  | "LEFT" => .leftWord
  | "OUTER" => .outerWord
  | "INNER" => .innerWord
  | "CROSS" => .crossWord
  | "RIGHT" => .rightWord
  | "FULL" => .fullWord
  | "NATURAL" => .naturalWord
  | "USING" => .usingWord
  | "ON" => .onWord
  | "WITH" => .withWord
  | "INDEXED" => .indexedWord
  | upper => if reservedWords.contains upper then .reserved else .name (String.ofList word)

/-- Reads what stands in quotes behind the opening quote; a quote inside is written twice. -/
def quotedBody? (quote : Char) : List Char → Option (List Char × List Char)
  | [] => none
  | [c] => if c = quote then some ([], []) else none
  | c :: d :: cs =>
    if c = quote then
      if d = quote then (quotedBody? quote cs).map fun (s, rest) => (quote :: s, rest)
      else some ([], d :: cs)
    else (quotedBody? quote (d :: cs)).map fun (s, rest) => (c :: s, rest)

def bracketBody? (cs : List Char) : Option (List Char × List Char) :=
  let (s, rest) := cs.span (· != ']')
  match rest with
  | [] => none
  | _ :: rest => some (s, rest)

def bytesOfHex? : List Char → Option (List UInt8)
  | [] => some []
  | [_] => none
  | a :: b :: cs => do
    let high ← Text.hexValue? a
    let low ← Text.hexValue? b
    let rest ← bytesOfHex? cs
    some (UInt8.ofNat (16 * high + low) :: rest)

def isHexDigit (c : Char) : Bool :=
  (Text.hexValue? c).isSome

/-- Drops the underscores of a number, each of which stands between two digits. -/
def plainDigits? (isDigit : Char → Bool) : List Char → Option (List Char)
  | a :: '_' :: b :: cs =>
    if isDigit a && isDigit b then (plainDigits? isDigit (b :: cs)).map (a :: ·) else none
  | '_' :: _ => none
  | [_, '_'] => none
  | c :: cs => (plainDigits? isDigit cs).map (c :: ·)
  | [] => some []

def isDigitOrMark (isDigit : Char → Bool) (c : Char) : Bool :=
  isDigit c || c == '_'

def spanExponent (cs : List Char) : List Char × List Char :=
  let digits (head rest : List Char) : List Char × List Char :=
    let (ds, behind) := rest.span (isDigitOrMark Text.isDigit)
    (head ++ ds, behind)
  match cs with
  | e :: s :: d :: rest =>
    if e != 'e' && e != 'E' then ([], cs)
    else if Text.isDigit s then digits [e] (s :: d :: rest)
    else if (s == '+' || s == '-') && Text.isDigit d then digits [e, s] (d :: rest)
    else ([], cs)
  | [e, s] => if (e == 'e' || e == 'E') && Text.isDigit s then ([e, s], []) else ([], cs)
  | _ => ([], cs)

def spanNumber (cs : List Char) : List Char × List Char :=
  let (whole, cs) := cs.span (isDigitOrMark Text.isDigit)
  let (fraction, cs) :=
    match cs with
    | '.' :: cs =>
      let (ds, rest) := cs.span (isDigitOrMark Text.isDigit)
      ('.' :: ds, rest)
    | cs => ([], cs)
  let (exponent, rest) := spanExponent cs
  (whole ++ fraction ++ exponent, rest)

/-- The magnitude of the least integer, which is one more than the greatest integer. -/
def leastMagnitude : Nat :=
  1 <<< 63

/-- The token of a written number. It is an integer if that or its opposite has 64 bits. -/
def decimalToken (written : List Char) : Token :=
  let parts := (Decimal.parts written).1
  let n := wholeNumber parts.whole
  if parts.isWhole && decide (n ≤ leastMagnitude) then .integer n
  else .real (.ofParts false parts)

def number : List Char → Option (Token × List Char)
  | '0' :: x :: d :: cs =>
    if (x == 'x' || x == 'X') && isHexDigit d then
      let (ds, rest) := (d :: cs).span (isDigitOrMark isHexDigit)
      if (rest.head?.map isNameChar).getD false then none
      else (plainDigits? isHexDigit ds).map fun ds =>
        (.hexInteger (ds.foldl (fun n d => 16 * n + (Text.hexValue? d).getD 0) 0), rest)
    else decimal ('0' :: x :: d :: cs)
  | cs => decimal cs
where
  decimal (cs : List Char) : Option (Token × List Char) :=
    let (written, rest) := spanNumber cs
    if (rest.head?.map isNameChar).getD false then none
    else (plainDigits? Text.isDigit written).map fun ds => (decimalToken ds, rest)

/-- The parameters that have been met: the number of the last one, and those with names. -/
structure ParamNames where
  count : Nat
  named : List (String × Nat)

namespace ParamNames

def empty : ParamNames :=
  ⟨0, []⟩

/-- A clause has this many parameters at most. -/
def maxCount : Nat :=
  32766

def next? (p : ParamNames) : Option (Nat × ParamNames) :=
  if p.count < maxCount then some (p.count, { p with count := p.count + 1 }) else none

def numbered? (p : ParamNames) (n : Nat) : Option (Nat × ParamNames) :=
  if 0 < n ∧ n ≤ maxCount then some (n - 1, { p with count := max p.count n }) else none

def named? (p : ParamNames) (name : String) : Option (Nat × ParamNames) :=
  match p.named.lookup name with
  | some i => some (i, p)
  | none => p.next?.map fun (i, q) => (i, { q with named := (name, i) :: q.named })

end ParamNames

/-- Splits off the name of a parameter, which has one character that may be in a name at least. Double
colons may stand in it, and behind it text in parentheses without spaces. -/
def spanParamName (named : Bool) : List Char → Option (List Char × List Char)
  | ':' :: ':' :: cs => (spanParamName named cs).map fun (s, rest) => (':' :: ':' :: s, rest)
  | c :: cs =>
    if isNameChar c then (spanParamName true cs).map fun (s, rest) => (c :: s, rest)
    else if !named then none
    else if c = '(' then
      let (inside, rest) := cs.span fun c => !isSpace c && c != ')'
      match rest with
      | ')' :: rest => some ('(' :: inside ++ [')'], rest)
      | _ => none
    else some ([], c :: cs)
  | [] => if named then some ([], []) else none

def param? (p : ParamNames) : List Char → Option (Token × List Char × ParamNames)
  | '?' :: cs =>
    let (ds, rest) := cs.span Text.isDigit
    (if ds.isEmpty then p.next? else p.numbered? (Nat.ofDigitChars 10 ds 0)).map
      fun (i, q) => (.param i, rest, q)
  | sigil :: c :: cs => do
    if sigil == '#' && Text.isDigit c then none
    else
      let (name, rest) ← spanParamName false (c :: cs)
      let (i, q) ← p.named? (String.ofList (sigil :: name))
      some (.param i, rest, q)
  | _ => none

def signToken? : List Char → Option (Token × List Char)
  | '|' :: '|' :: cs => some (.concat, cs)
  | '=' :: '=' :: cs => some (.equal, cs)
  | '<' :: '>' :: cs => some (.notEqual, cs)
  | '!' :: '=' :: cs => some (.notEqual, cs)
  | '<' :: '=' :: cs => some (.atMost, cs)
  | '>' :: '=' :: cs => some (.atLeast, cs)
  | '<' :: '<' :: cs => some (.shiftLeft, cs)
  | '>' :: '>' :: cs => some (.shiftRight, cs)
  | '-' :: '>' :: '>' :: cs => some (.arrow true, cs)
  | '-' :: '>' :: cs => some (.arrow false, cs)
  | '(' :: cs => some (.leftParen, cs)
  | ')' :: cs => some (.rightParen, cs)
  | ',' :: cs => some (.comma, cs)
  | '.' :: cs => some (.dot, cs)
  | '+' :: cs => some (.plus, cs)
  | '-' :: cs => some (.minus, cs)
  | '*' :: cs => some (.times, cs)
  | '/' :: cs => some (.divide, cs)
  | '%' :: cs => some (.remainder, cs)
  | '&' :: cs => some (.bitAnd, cs)
  | '|' :: cs => some (.bitOr, cs)
  | '~' :: cs => some (.complement, cs)
  | '=' :: cs => some (.equal, cs)
  | '<' :: cs => some (.less, cs)
  | '>' :: cs => some (.greater, cs)
  | _ => none

def quotedToken? : List Char → Option (Token × List Char)
  | '\'' :: cs => (quotedBody? '\'' cs).map fun (s, rest) => (.text (String.ofList s), rest)
  | '"' :: cs => (quotedBody? '"' cs).map fun (s, rest) => (.quotedName (String.ofList s), rest)
  | '\x60' :: cs => (quotedBody? '\x60' cs).map fun (s, rest) => (.enclosedName (String.ofList s), rest)
  | '[' :: cs => (bracketBody? cs).map fun (s, rest) => (.enclosedName (String.ofList s), rest)
  | _ :: cs =>
    match cs with
    | '\'' :: cs => do
      let (digits, rest) ← quotedBody? '\'' cs
      let bytes ← bytesOfHex? digits
      some (.blob bytes, rest)
    | _ => none
  | [] => none

def startsBlob : List Char → Bool
  | x :: '\'' :: _ => x == 'x' || x == 'X'
  | _ => false

def isQuote (c : Char) : Bool :=
  c == '\'' || c == '"' || c == '\x60' || c == '['

def startsNumber : List Char → Bool
  | '.' :: c :: _ => Text.isDigit c
  | c :: _ => Text.isDigit c
  | [] => false

def isSigil (c : Char) : Bool :=
  c == '?' || c == ':' || c == '@' || c == '#' || c == '$'

/-- Reads the token at the start of a list that starts with no space and no comment. -/
def token? (p : ParamNames) (cs : List Char) : Option (Token × List Char × ParamNames) :=
  match cs with
  | [] => none
  | c :: _ =>
    if isQuote c || startsBlob cs then (quotedToken? cs).map fun (t, rest) => (t, rest, p)
    else if startsNumber cs then (number cs).map fun (t, rest) => (t, rest, p)
    else if isNameStart c then
      let (word, rest) := cs.span isNameChar
      some (wordToken word, rest, p)
    else if isSigil c then param? p cs
    else (signToken? cs).map fun (t, rest) => (t, rest, p)

def afterStars : List Char → Option (List Char)
  | [] => none
  | '*' :: '/' :: cs => some cs
  | _ :: cs => afterStars cs

/-- What stands behind the comment at the start of a list: `none` if there is no comment, and
`some none` if it goes on over what follows the clause. -/
def afterComment? : List Char → Option (Option (List Char))
  | '-' :: '-' :: cs =>
    let rest := cs.dropWhile (· != '\n')
    some (if rest.isEmpty then none else some rest)
  | '/' :: '*' :: cs => some (afterStars cs)
  | _ => none

/-- All tokens up to the end of the statement, and the number of parameters; `fuel` bounds the steps. -/
def tokensWithin : Nat → ParamNames → List Char → Option (List Token × Nat)
  | _, p, [] => some ([], p.count)
  | 0, _, _ :: _ => none
  | fuel + 1, p, c :: cs =>
    if c = ';' ∨ c = '\x00' then some ([.stop], p.count)
    else if startsSpaces c then tokensWithin fuel p (if c = '\uFEFF' then cs else cs.dropWhile isSpace)
    else
      match afterComment? (c :: cs) with
      | some none => some ([.stop], p.count)
      | some (some rest) => tokensWithin fuel p rest
      | none => do
        let (t, rest, q) ← token? p (c :: cs)
        let (ts, count) ← tokensWithin fuel q rest
        some (t :: ts, count)

/-- The tokens of a clause and the number of its parameters, `none` if a token is malformed. -/
def tokens? (clause : String) : Option (List Token × Nat) :=
  tokensWithin clause.toList.length .empty clause.toList

end AuditSearch.Sql
