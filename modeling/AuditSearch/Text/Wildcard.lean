/-!
Wildcard patterns: `%` stands for any run of characters and `_` for one. An escape character makes
the next character stand for itself. Letters match without regard to ASCII case. In the patterns of
file names `*` and `?` do the same, brackets hold the characters that one may be, and case matters.
-/
namespace AuditSearch.Text

def wildcardEscape : Char :=
  '\\'

/-- Puts the escape character before each character that a pattern would read otherwise. -/
def escapeWildcards : List Char → List Char
  | [] => []
  | c :: cs =>
    if c = '%' ∨ c = '_' ∨ c = wildcardEscape then wildcardEscape :: c :: escapeWildcards cs
    else c :: escapeWildcards cs

/-- Whether `accepts` holds of the list or of one of its tails. -/
def anyTail (accepts : List Char → Bool) : List Char → Bool
  | [] => accepts []
  | c :: cs => accepts (c :: cs) || anyTail accepts cs

/-- The characters of a text as patterns see them: up to a null character, and with the replacement
character for the two that are none in the first plane. -/
def readable (s : String) : List Char :=
  (s.toList.takeWhile (· != '\x00')).map fun c =>
    if c = '\uFFFE' ∨ c = '\uFFFF' then '\uFFFD' else c

/-- One character against the pattern character `p`. -/
def sameLetter (p c : Char) : Bool :=
  p.toLower == c.toLower

/-- Tests of characters one after the other. -/
abbrev CharTests :=
  List (Char → Bool)

/-- What stands behind the characters at the start of a list that pass the tests. -/
def afterTests? : CharTests → List Char → Option (List Char)
  | [], cs => some cs
  | _ :: _, [] => none
  | test :: tests, c :: cs => if test c then afterTests? tests cs else none

/-- What stands behind the first characters in a list that pass the tests. -/
def afterFirst? (tests : CharTests) : List Char → Option (List Char)
  | [] => afterTests? tests []
  | c :: cs => (afterTests? tests (c :: cs)).or (afterFirst? tests cs)

/-- A pattern: the tests in front of the first wildcard for a run of characters, and those behind each. -/
structure Pattern where
  first : CharTests
  others : List CharTests

namespace Pattern

def empty : Pattern :=
  ⟨[], []⟩

/-- A pattern behind one character. -/
def afterOne (test : Char → Bool) (p : Pattern) : Pattern :=
  { p with first := test :: p.first }

def afterRun (p : Pattern) : Pattern :=
  ⟨[], p.first :: p.others⟩

/-- Whether runs of any characters, each with characters behind it that pass its tests, are the whole text.
The run behind which more follow may as well be the shortest one. -/
def coversRuns : List CharTests → List Char → Bool
  | [], text => text.isEmpty
  | [last], text =>
    decide (last.length ≤ text.length) &&
      (afterTests? last (text.drop (text.length - last.length))).isSome
  | tests :: more, text =>
    match afterFirst? tests text with
    | some rest => coversRuns more rest
    | none => false

def covers (p : Pattern) (text : List Char) : Bool :=
  match afterTests? p.first text with
  | some rest => coversRuns p.others rest
  | none => false

/-- The pattern of wildcards. A lone escape character at its end matches nothing. -/
def ofWildcards (escape : Option Char) : List Char → Pattern
  | [] => empty
  | p :: ps =>
    if some p = escape then
      match ps with
      | [] => empty.afterOne fun _ => false
      | q :: qs => (ofWildcards escape qs).afterOne (sameLetter q)
    else if p = '%' then (ofWildcards escape ps).afterRun
    else (ofWildcards escape ps).afterOne fun c => p == '_' || sameLetter p c

end Pattern

def isLike (escape : Option Char) (pattern text : List Char) : Bool :=
  (Pattern.ofWildcards escape pattern).covers text

/-- Whether a character is in a set, up to its closing bracket, and the pattern behind it. In front of a
minus sign stands `previous`, if a range may start there. -/
def setMember? (c : Char) : Option Char → Bool → List Char → Option (Bool × List Char)
  | _, _, [] => none
  | _, seen, ']' :: ps => some (seen, ps)
  | previous, seen, '-' :: p :: ps =>
    match previous with
    | some first =>
      if p = ']' then some (seen || c == '-', ps)
      else setMember? c none (seen || (decide (first ≤ c) && decide (c ≤ p))) ps
    | none => setMember? c (some '-') (seen || c == '-') (p :: ps)
  | _, seen, p :: ps => setMember? c (some p) (seen || c == p) ps

/-- Whether a character is in the set at the start of a pattern, behind its opening bracket. A circumflex
makes it the set of all others, and a closing bracket at its start is one of its characters. -/
def inSet? (c : Char) (ps : List Char) : Option (Bool × List Char) :=
  let (inverted, ps) :=
    match ps with
    | '^' :: ps => (true, ps)
    | ps => (false, ps)
  let (seen, ps) :=
    match ps with
    | ']' :: ps => (c == ']', ps)
    | ps => (false, ps)
  (setMember? c none seen ps).map fun (found, rest) => (found != inverted, rest)

/-- The pattern of a file name; a set that is not closed has no character. `fuel` bounds the steps. -/
def Pattern.ofFileName : Nat → List Char → Pattern
  | 0, _ | _, [] => empty
  | fuel + 1, '*' :: ps => (ofFileName fuel ps).afterRun
  | fuel + 1, '?' :: ps => (ofFileName fuel ps).afterOne fun _ => true
  | fuel + 1, '[' :: ps =>
    match inSet? '\x00' ps with
    | some (_, rest) => (ofFileName fuel rest).afterOne fun c => (inSet? c ps).any (·.1)
    | none => empty.afterOne fun _ => false
  | fuel + 1, p :: ps => (ofFileName fuel ps).afterOne (p == ·)

/-- Whether a pattern of a file name covers a text. -/
def isGlob (pattern text : List Char) : Bool :=
  (Pattern.ofFileName pattern.length pattern).covers text

/-- Whether the first list stands inside the second in one piece. -/
def isInfix (part : List Char) (whole : List Char) : Bool :=
  anyTail part.isPrefixOf whole

end AuditSearch.Text
