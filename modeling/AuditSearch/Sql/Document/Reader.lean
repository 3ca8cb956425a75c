import AuditSearch.Sql.Document.Basic

/-!
A lenient reader of documents. Names may stand without quotes, texts in single ones, numbers in base 16 or
without the digits around their point; a comma may stand behind the last part, and comments where spaces may
stand. The reader remembers whether it met anything of that, and where it met what it could not read.
-/
namespace AuditSearch.Sql.Document

/-- What reading has come upon so far. -/
structure Trail where
  /-- Where the last thing stands that was no document. -/
  stuck : List Char
  isStrict : Bool

def Trail.stuckAt (t : Trail) (cs : List Char) : Trail :=
  { t with stuck := cs }

def Trail.lenient (t : Trail) : Trail :=
  { t with isStrict := false }

/-- What stands at a place where a document may stand. -/
inductive Found where
  | document (d : Document) (rest : List Char)
  /-- The end of an array or of an object, a comma or a colon, and what stands behind it. -/
  | mark (c : Char) (rest : List Char)
  | nothing
  | fault

def isBlank (c : Char) : Bool :=
  c == ' ' || c == '\t' || c == '\n' || c == '\r'

/-- What stands behind a space that only a lenient reader knows. -/
def afterOtherBlank? : List Char → Option (List Char)
  | '\x0b' :: cs | '\x0c' :: cs | '\u00c2' :: '\u00a0' :: cs | '\u00e1' :: '\u009a' :: '\u0080' :: cs
  | '\u00e2' :: '\u0081' :: '\u009f' :: cs | '\u00e3' :: '\u0080' :: '\u0080' :: cs
  | '\u00ef' :: '\u00bb' :: '\u00bf' :: cs => some cs
  | '\u00e2' :: '\u0080' :: c :: cs =>
    if ('\u0080' ≤ c ∧ c ≤ '\u008a') ∨ c = '\u00a8' ∨ c = '\u00a9' ∨ c = '\u00af' then some cs else none
  | _ => none

def afterLine : List Char → List Char
  | [] => []
  | '\n' :: cs | '\r' :: cs | '\u00e2' :: '\u0080' :: '\u00a8' :: cs | '\u00e2' :: '\u0080' :: '\u00a9' :: cs => cs
  | _ :: cs => afterLine cs

def afterStars? : List Char → Option (List Char)
  | [] => none
  | '*' :: '/' :: cs => some cs
  | _ :: cs => afterStars? cs

def afterComment? : List Char → Option (List Char)
  | '/' :: '*' :: cs => afterStars? cs
  | '/' :: '/' :: cs => some (afterLine cs)
  | _ => none

def afterFiller? (cs : List Char) : Option (List Char) :=
  (afterOtherBlank? cs).or (afterComment? cs)

/-- What stands behind spaces and comments; `fuel` bounds their number. -/
def skipBlanks : Nat → List Char → List Char
  | 0, cs => cs
  | fuel + 1, cs =>
    match cs.dropWhile isBlank with
    | [] => []
    | c :: rest =>
      match afterFiller? (c :: rest) with
      | some behind => skipBlanks fuel behind
      | none => c :: rest

def isNameStart (c : Char) : Bool :=
  c.isAlpha || c == '_' || c == '$' || decide (0x80 ≤ c.toNat)

def isNameChar (c : Char) : Bool :=
  isNameStart c || Text.isDigit c

def startsUnit : List Char → Bool
  | a :: b :: c :: d :: _ => (Json.unit? a b c d).isSome
  | _ => false

def startsEscape : List Char → Bool
  | 'u' :: cs => startsUnit cs
  | _ => false

def bareName : List Char → List Char × List Char
  | '\\' :: cs =>
    if startsEscape cs then
      let (name, rest) := bareName cs
      ('\\' :: name, rest)
    else ([], '\\' :: cs)
  | c :: cs =>
    if isNameChar c && (afterOtherBlank? (c :: cs)).isNone then
      let (name, rest) := bareName cs
      (c :: name, rest)
    else ([], c :: cs)
  | [] => ([], [])

def bareName? : List Char → Option (WrittenText × List Char)
  | [] => none
  | c :: cs =>
    if (isNameStart c && (afterOtherBlank? (c :: cs)).isNone) || (c == '\\' && startsEscape cs) then
      let (name, rest) := bareName (c :: cs)
      some (⟨if name.contains '\\' then .escaped else .plain, name⟩, rest)
    else none

/-- How an escape behind its backslash makes a text of a form count, and how many characters it has. -/
def escape? (form : TextForm) : List Char → Option (TextForm × Nat)
  | 'u' :: cs => if startsUnit cs then some (if form == .plain then .escaped else form, 1) else none
  | 'x' :: a :: b :: _ => if (WrittenText.byte? a b).isSome then some (.lenient, 1) else none
  | '\r' :: '\n' :: _ => some (.lenient, 2)
  | '\u00e2' :: '\u0080' :: '\u00a8' :: _ | '\u00e2' :: '\u0080' :: '\u00a9' :: _ => some (.lenient, 3)
  | c :: _ =>
    if (Json.shortEscape? c).isSome then some (if form == .plain then .escaped else form, 1)
    else if ['\'', '0', 'v', '\n', '\r'].contains c then some (.lenient, 1)
    else none
  | [] => none

/-- Reads a text up to its closing quote, behind the characters in `done`, last one first. Where there is no
text, there is the place of its fault. `fuel` bounds its length. -/
def textBody (quote : Char) : Nat → TextForm → List Char → List Char →
    Except (List Char) (WrittenText × List Char)
  | 0, _, _, cs => .error cs
  | _, _, _, [] => .error []
  | fuel + 1, form, done, c :: cs =>
    if c = quote then .ok (⟨form, done.reverse⟩, cs)
    else if c = '\\' then
      match escape? form cs with
      | none => .error cs
      | some (form, n) => textBody quote fuel form ((cs.take n).reverse ++ c :: done) (cs.drop n)
    else if c.toNat < 0x20 || c = '"' then textBody quote fuel .lenient (c :: done) cs
    else textBody quote fuel form (c :: done) cs

/-- Whether a text is one that every reader knows, in double quotes. -/
def isStrictText (t : WrittenText) : Bool :=
  t.form != .lenient

/-- How digits are read: whether there was a point or an exponent, and whether something is missing that strict
readers ask for. -/
structure Digits where
  isDecimal : Bool
  isLenient : Bool
  hasExponent : Bool

/-- Whether the last characters that were read, last one first, end in a point behind a digit. -/
def endsInPoint : List Char → Bool
  | '.' :: d :: _ => Text.isDigit d
  | _ => false

/-- Reads the digits, the point and the exponent of a number behind the characters in `done`, last one first.
Where there is no number, there is the place of its fault. `fuel` bounds its length. -/
def numberBody : Nat → Digits → List Char → List Char → Except (List Char) (Digits × List Char × List Char)
  | 0, _, _, cs => .error cs
  | fuel + 1, s, done, cs =>
    /- Missing digits behind a point are for lenient readers. -/
    let closed : Option Digits :=
      if (done.head?.any fun c => decide (c < '0')) then
        if endsInPoint done then some { s with isLenient := true } else none
      else some s
    match cs with
    | '.' :: rest =>
      if s.isDecimal then .error cs else numberBody fuel { s with isDecimal := true } ('.' :: done) rest
    | c :: rest =>
      if Text.isDigit c then numberBody fuel s (c :: done) rest
      else if c = 'e' ∨ c = 'E' then
        match closed with
        | none => .error cs
        | some s =>
          if s.hasExponent then .error cs
          else
            let s := { s with isDecimal := true, hasExponent := true }
            match rest with
            | sign :: d :: _ =>
              if sign = '+' ∨ sign = '-' then
                if Text.isDigit d then numberBody fuel s (sign :: c :: done) (rest.drop 1) else .error rest
              else if Text.isDigit sign then numberBody fuel s (c :: done) rest
              else .error cs
            | [d] =>
              if Text.isDigit d then numberBody fuel s (c :: done) rest
              else if d = '+' ∨ d = '-' then .error rest
              else .error cs
            | [] => .error cs
      else (closed.map fun s => .ok (s, done.reverse, cs)).getD (.error cs)
    | [] => (closed.map fun s => .ok (s, done.reverse, [])).getD (.error [])

def isHex (c : Char) : Bool :=
  (Text.hexValue? c).isSome

def startsWith (word : String) (cs : List Char) : Bool :=
  (cs.take word.length).map Char.toLower == word.toList

def afterWord? (word : String) (cs : List Char) : Option (List Char) :=
  let rest := cs.drop word.length
  if cs.take word.length == word.toList && !(rest.head?.any Char.isAlphanum) then some rest else none

/-- Words for numbers that are greater than all, and for those that are none. -/
def oddWord? (cs : List Char) : Option (Document × List Char) :=
  let read (word : String) (d : Document) : Option (Document × List Char) :=
    let rest := cs.drop word.length
    if startsWith word cs && !(rest.head?.any Char.isAlphanum) then some (d, rest) else none
  let endless := decimal false "9e999".toList
  ((((read "inf" endless).or (read "infinity" endless)).or (read "nan" null)).or (read "qnan" null)).or
    (read "snan" null)

def ofDigits (s : Digits) (written : List Char) : Document :=
  if s.isDecimal then decimal s.isLenient written else integer s.isLenient written

/-- Reads a number of digits, points and an exponent behind characters that were read; `fuel` bounds its length. -/
def plainNumber (fuel : Nat) (t : Trail) (s : Digits) (done cs : List Char) : Found × Trail :=
  match numberBody fuel s done cs with
  | .error place => (.fault, t.stuckAt place)
  | .ok (s, written, rest) =>
    let written := if written.head? == some '+' then written.drop 1 else written
    (.document (ofDigits s written) rest, if s.isLenient then t.lenient else t)

def hexNumber (t : Trail) (isNegative : Bool) (x : Char) (cs : List Char) : Found × Trail :=
  let (ds, rest) := cs.span isHex
  let sign := if isNegative then ['-'] else []
  (.document (integer true (sign ++ '0' :: x :: ds)) rest, t.lenient)

def unsignedNumber (fuel : Nat) (t : Trail) (sign : Option Char) (cs : List Char) : Found × Trail :=
  let done := sign.toList
  let isHexMark (x : Char) : Bool := x == 'x' || x == 'X'
  match cs with
  | '0' :: x :: d :: rest =>
    if isHexMark x && isHex d then hexNumber t (sign == some '-') x (d :: rest)
    else if Text.isDigit x then (.fault, t.stuckAt (if sign.isSome then cs else x :: d :: rest))
    else plainNumber fuel t ⟨false, false, false⟩ ('0' :: done) (x :: d :: rest)
  | ['0', x] =>
    if Text.isDigit x then (.fault, t.stuckAt (if sign.isSome then cs else [x]))
    else plainNumber fuel t ⟨false, false, false⟩ ('0' :: done) [x]
  | c :: rest => plainNumber fuel t ⟨false, false, false⟩ (c :: done) rest
  | [] => (.fault, t.stuckAt cs)

def signedNumber (fuel : Nat) (t : Trail) (sign : Char) (cs : List Char) : Found × Trail :=
  let t := if sign = '+' then t.lenient else t
  match cs with
  | '.' :: _ => plainNumber fuel t.lenient ⟨false, true, false⟩ [sign] cs
  | c :: _ =>
    if Text.isDigit c then unsignedNumber fuel t (some sign) cs
    else if startsWith "inf" cs then
      let rest := if startsWith "inity" (cs.drop 3) then cs.drop 8 else cs.drop 3
      (.document (decimal false (if sign = '-' then "-9e999" else "9e999").toList) rest, t.lenient)
    else (.fault, t.stuckAt (sign :: cs))
  | [] => (.fault, t.stuckAt [sign])

def quotedText (fuel : Nat) (t : Trail) (quote : Char) (cs : List Char) : Found × Trail :=
  let t := if quote = '\'' then t.lenient else t
  match textBody quote fuel .plain [] cs with
  | .error place => (.fault, t.stuckAt place)
  | .ok (s, rest) => (.document (text s) rest, if isStrictText s then t else t.lenient)

/-- Reads a document that has no parts, at the start of a list that starts with no space; `fuel` bounds its
length. -/
def leaf (fuel : Nat) (t : Trail) (cs : List Char) : Found × Trail :=
  let other (_ : Unit) : Found × Trail :=
    match oddWord? cs with
    | some (d, rest) => (.document d rest, t.lenient)
    | none => (.fault, t.stuckAt cs)
  let word (w : String) (d : Document) (otherwise : Unit → Found × Trail) : Found × Trail :=
    match afterWord? w cs with
    | some rest => (.document d rest, t)
    | none => otherwise ()
  match cs with
  | [] => (.nothing, t)
  | '"' :: rest => quotedText fuel t '"' rest
  | '\'' :: rest => quotedText fuel t '\'' rest
  | 't' :: _ => word "true" (bool true) fun _ => (.fault, t.stuckAt cs)
  | 'f' :: _ => word "false" (bool false) fun _ => (.fault, t.stuckAt cs)
  | 'n' :: _ => word "null" null other
  | '-' :: rest => signedNumber fuel t '-' rest
  | '+' :: rest => signedNumber fuel t '+' rest
  | '.' :: d :: _ =>
    if Text.isDigit d then plainNumber fuel t.lenient ⟨true, true, false⟩ ['.'] (cs.drop 1) else (.fault, t.stuckAt cs)
  | c :: rest =>
    if c = '}' ∨ c = ']' ∨ c = ',' ∨ c = ':' then (.mark c rest, t.stuckAt cs)
    else if Text.isDigit c then unsignedNumber fuel t none cs
    else other ()

def maxDepth : Nat :=
  1000

mutual

/-- Reads what stands at the start of a list, inside of so many documents. -/
def readFrom : Nat → Nat → Trail → List Char → Found × Trail
  | 0, _, t, _ => (.fault, t)
  | fuel + 1, depth, t, cs =>
    match cs.dropWhile isBlank with
    | '\x7b' :: rest =>
      if maxDepth ≤ depth then (.fault, t.stuckAt (cs.dropWhile isBlank))
      else readMembers fuel (depth + 1) t [] rest
    | '[' :: rest =>
      if maxDepth ≤ depth then (.fault, t.stuckAt (cs.dropWhile isBlank))
      else readItems fuel (depth + 1) t [] rest
    | c :: rest =>
      match afterFiller? (c :: rest) with
      | some behind => readFrom fuel depth t.lenient behind
      | none => if c = '/' then (.fault, t.stuckAt (c :: rest)) else leaf fuel t (c :: rest)
    | [] => (.nothing, t)

/-- Reads the items of an array behind those in `done`, last one first. -/
def readItems : Nat → Nat → Trail → List Document → List Char → Found × Trail
  | 0, _, t, _, _ => (.fault, t)
  | fuel + 1, depth, t, done, cs =>
    match readFrom fuel depth t cs with
    | (.mark ']' rest, t) => (.document (array done.reverse) rest, if done.isEmpty then t else t.lenient)
    | (.fault, t) => (.fault, t)
    | (.document d rest, t) =>
      match rest.dropWhile isBlank with
      | ',' :: rest => readItems fuel depth t (d :: done) rest
      | ']' :: rest => (.document (array (d :: done).reverse) rest, t)
      | behind =>
        match readFrom fuel depth t behind with
        | (.mark ',' rest, t) => readItems fuel depth t (d :: done) rest
        | (.mark ']' rest, t) => (.document (array (d :: done).reverse) rest, t)
        | (_, t) => (.fault, t.stuckAt behind)
    | (_, t) => (.fault, t.stuckAt cs)

/-- Reads the members of an object behind those in `done`, last one first. -/
def readMembers : Nat → Nat → Trail → List (WrittenText × Document) → List Char → Found × Trail
  | 0, _, t, _, _ => (.fault, t)
  | fuel + 1, depth, t, done, cs =>
    match readFrom fuel depth t cs with
    | (.mark '}' rest, t) => (.document (object done.reverse) rest, if done.isEmpty then t else t.lenient)
    | (.document (text name) rest, t) => readMember fuel depth t done name rest
    | (.document _ _, t) => (.fault, t.stuckAt cs)
    | (found, t) =>
      let start := skipBlanks fuel cs
      match bareName? start, found with
      | some (name, rest), _ => readMember fuel depth t.lenient done name rest
      | none, .fault => (.fault, t)
      | none, _ => (.fault, t.stuckAt start)

/-- Reads the value of a member behind its name, and further members. -/
def readMember : Nat → Nat → Trail → List (WrittenText × Document) → WrittenText → List Char → Found × Trail
  | 0, _, t, _, _, _ => (.fault, t)
  | fuel + 1, depth, t, done, name, cs =>
    let colon : Option (List Char) × Trail :=
      match cs.dropWhile isBlank with
      | ':' :: rest => (some rest, t)
      | behind =>
        match readFrom fuel depth t behind with
        | (.mark ':' rest, t) => (some rest, t)
        | (.fault, t) => (none, t)
        | (_, t) => (none, t.stuckAt behind)
    match colon with
    | (none, t) => (.fault, t)
    | (some start, t) =>
      match readFrom fuel depth t start with
      | (.fault, t) => (.fault, t)
      | (.document d rest, t) =>
        let done := (name, d) :: done
        match rest.dropWhile isBlank with
        | ',' :: rest => readMembers fuel depth t done rest
        | '}' :: rest => (.document (object done.reverse) rest, t)
        | behind =>
          match readFrom fuel depth t behind with
          | (.mark ',' rest, t) => readMembers fuel depth t done rest
          | (.mark '}' rest, t) => (.document (object done.reverse) rest, t)
          | (_, t) => (.fault, t.stuckAt behind)
      | (_, t) => (.fault, t.stuckAt start)

end

/-- The document that a whole text is, if it is one, and what reading came upon. -/
def read (cs : List Char) : Option Document × Trail :=
  match readFrom (3 * cs.length + 3) 0 ⟨cs, true⟩ cs with
  | (.document d rest, t) =>
    match rest.dropWhile isBlank with
    | [] => (some d, t)
    | behind => if (skipBlanks (behind.length + 1) behind).isEmpty then (some d, t.lenient) else (none, t)
  | (_, t) => (none, t)

def read? (cs : List Char) : Option Document :=
  (read cs).1

end AuditSearch.Sql.Document
