import AuditSearch.Text.Numeral

/-!
The tokens of a JSON document and their scanner. A text with an escape that names one half of a
surrogate pair is still well formed, but it has no content.
-/
namespace AuditSearch.Json

inductive Token where
  | null
  | bool (value : Bool)
  | integer (value : Int)
  | decimal (written : String)
  | text (content : Option String)
  | openArray
  | closeArray
  | openObject
  | closeObject
  | comma
  | colon
  deriving DecidableEq, Repr

def isSpace (c : Char) : Bool :=
  c == ' ' || c == '\n' || c == '\t' || c == '\r'

def unit? (a b c d : Char) : Option Nat := do
  let a ← Text.hexValue? a
  let b ← Text.hexValue? b
  let c ← Text.hexValue? c
  let d ← Text.hexValue? d
  some (((a * 16 + b) * 16 + c) * 16 + d)

def isHighHalf (u : Nat) : Bool :=
  decide (0xD800 ≤ u) && decide (u < 0xDC00)

def isLowHalf (u : Nat) : Bool :=
  decide (0xDC00 ≤ u) && decide (u < 0xE000)

def joinHalves (high low : Nat) : Char :=
  Char.ofNat (0x10000 + (high - 0xD800) * 0x400 + (low - 0xDC00))

def shortEscape? : Char → Option Char
  | '"' => some '"'
  | '\\' => some '\\'
  | '/' => some '/'
  | 'b' => some '\x08'
  | 'f' => some '\x0c'
  | 'n' => some '\n'
  | 'r' => some '\r'
  | 't' => some '\t'
  | _ => none

/-- What has been read of a text, and the characters behind it. -/
abbrev TextRest :=
  Option (Option (List Char) × List Char)

def putChar (c : Char) (r : TextRest) : TextRest :=
  r.map fun (content, rest) => (content.map (c :: ·), rest)

def dropContent (r : TextRest) : TextRest :=
  r.map fun (_, rest) => (none, rest)

/-- Reads a text behind its opening quote up to its closing quote. -/
def textBody : List Char → TextRest
  | [] => none
  | '"' :: cs => some (some [], cs)
  | '\\' :: 'u' :: a :: b :: c :: d :: '\\' :: 'u' :: e :: f :: g :: h :: cs =>
    match unit? a b c d with
    | none => none
    | some u =>
      if isHighHalf u then
        match unit? e f g h with
        | none => none
        | some v =>
          if isLowHalf v then putChar (joinHalves u v) (textBody cs)
          else dropContent (textBody ('\\' :: 'u' :: e :: f :: g :: h :: cs))
      else if isLowHalf u then dropContent (textBody ('\\' :: 'u' :: e :: f :: g :: h :: cs))
      else putChar (Char.ofNat u) (textBody ('\\' :: 'u' :: e :: f :: g :: h :: cs))
  | '\\' :: 'u' :: a :: b :: c :: d :: cs =>
    match unit? a b c d with
    | none => none
    | some u =>
      if isHighHalf u || isLowHalf u then dropContent (textBody cs)
      else putChar (Char.ofNat u) (textBody cs)
  | '\\' :: c :: cs =>
    match shortEscape? c with
    | none => none
    | some e => putChar e (textBody cs)
  | c :: cs => if c.toNat < 0x20 then none else putChar c (textBody cs)

/-- The digits at the start of a list, of which there must be one, and the rest. -/
def digits? (cs : List Char) : Option (List Char × List Char) :=
  let (ds, rest) := cs.span Text.isDigit
  if ds.isEmpty then none else some (ds, rest)

def fraction? : List Char → Option (List Char × List Char)
  | '.' :: cs => (digits? cs).map fun (ds, rest) => ('.' :: ds, rest)
  | cs => some ([], cs)

def exponent? : List Char → Option (List Char × List Char)
  | [] => some ([], [])
  | e :: cs =>
    if e = 'e' ∨ e = 'E' then
      match cs with
      | '-' :: cs => (digits? cs).map fun (ds, rest) => (e :: '-' :: ds, rest)
      | '+' :: cs => (digits? cs).map fun (ds, rest) => (e :: '+' :: ds, rest)
      | cs => (digits? cs).map fun (ds, rest) => (e :: ds, rest)
    else some ([], e :: cs)

/-- Whether an integer has 64 bits, with or without a sign. -/
def isWord (n : Int) : Bool :=
  decide (Int64.minValue.toInt ≤ n) && decide (n < UInt64.size)

/-- Reads a number without its sign. A leading zero stands alone. -/
def unsigned? (negative : Bool) (cs : List Char) : Option (Token × List Char) := do
  let (ds, cs) ← digits? cs
  if ds.head? == some '0' && ds.length != 1 then none
  else
    let (frac, cs) ← fraction? cs
    let (exp, cs) ← exponent? cs
    let magnitude := Nat.ofDigitChars 10 ds 0
    let n : Int := if negative then -magnitude else magnitude
    if frac.isEmpty && exp.isEmpty && isWord n && !(negative && n == 0) then
      some (.integer n, cs)
    else
      let sign := if negative then ['-'] else []
      some (.decimal (String.ofList (sign ++ ds ++ frac ++ exp)), cs)

/-- Reads one token at the start of a list that starts with no space. -/
def token? : List Char → Option (Token × List Char)
  | 'n' :: 'u' :: 'l' :: 'l' :: cs => some (.null, cs)
  | 't' :: 'r' :: 'u' :: 'e' :: cs => some (.bool true, cs)
  | 'f' :: 'a' :: 'l' :: 's' :: 'e' :: cs => some (.bool false, cs)
  | '[' :: cs => some (.openArray, cs)
  | ']' :: cs => some (.closeArray, cs)
  | '{' :: cs => some (.openObject, cs)
  | '}' :: cs => some (.closeObject, cs)
  | ',' :: cs => some (.comma, cs)
  | ':' :: cs => some (.colon, cs)
  | '"' :: cs => (textBody cs).map fun (content, rest) => (.text (content.map String.ofList), rest)
  | '-' :: cs => unsigned? true cs
  | cs => unsigned? false cs

/-- All tokens; `fuel` bounds their number and that of the spaces. -/
def tokensWithin : Nat → List Char → Option (List Token)
  | _, [] => some []
  | 0, _ :: _ => none
  | fuel + 1, c :: cs =>
    if isSpace c then tokensWithin fuel cs
    else do
      let (t, rest) ← token? (c :: cs)
      let ts ← tokensWithin fuel rest
      some (t :: ts)

/-- The tokens of a document, `none` if one of them is malformed. -/
def tokens? (s : String) : Option (List Token) :=
  tokensWithin s.toList.length s.toList

end AuditSearch.Json
