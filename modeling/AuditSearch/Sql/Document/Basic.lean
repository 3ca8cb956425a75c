import AuditSearch.Json.Token
import AuditSearch.Json.Writer
import AuditSearch.Text.Bytes

/-!
Documents as a clause computes with them. Numbers and texts stay as they are written until something asks for
their values, and each remembers how lenient its reader was. What is written is bytes, which need not be those of
characters; each stands here as the character of its code.
-/
namespace AuditSearch.Sql

/-- How the characters of a text are written. -/
inductive TextForm where
  | plain
  /-- With the escapes that every reader knows. -/
  | escaped
  /-- With escapes and characters that only a lenient reader knows. -/
  | lenient
  /-- Not written yet: all characters stand for themselves. -/
  | raw
  /-- What stands where a text should: it is written as it is. -/
  | bare
  deriving DecidableEq, Repr

/-- The characters of a text, as they are written. -/
structure WrittenText where
  form : TextForm
  written : List Char
  deriving DecidableEq, Repr

inductive Document where
  | null
  | bool (value : Bool)
  | integer (isLenient : Bool) (written : List Char)
  | decimal (isLenient : Bool) (written : List Char)
  | text (content : WrittenText)
  | array (items : List Document)
  | object (members : List (WrittenText × Document))
  deriving Inhabited

namespace WrittenText

def shortCode? : Char → Option Nat
  | 'v' => some 11
  | '0' => some 0
  | '\'' => some 39
  | c => (Json.shortEscape? c).map Char.toNat

/-- The number that two hexadecimal digits stand for. -/
def byte? (a b : Char) : Option Nat := do
  let high ← Text.hexValue? a
  let low ← Text.hexValue? b
  some (16 * high + low)

def ofCode (n : Nat) : List Char :=
  Text.charsOfBytes (Text.bytesOfCode n)

/-- The bytes of what an escape of one letter stands for; there are none if it stands for nothing. -/
def ofShort (c : Char) : List Char :=
  ((shortCode? c).map ofCode).getD []

/-- The bytes that written ones stand for. An escape that is none stands for nothing, and so does the end of a
line behind a backslash, or for code 0 at the end. -/
def meant : List Char → List Char
  | [] => []
  | '\\' :: 'u' :: a :: b :: c :: d :: '\\' :: 'u' :: e :: f :: g :: h :: cs =>
    match Json.unit? a b c d, Json.unit? e f g h with
    | some high, some low =>
      if Json.isHighHalf high && Json.isLowHalf low then ofCode (Json.joinHalves high low).toNat ++ meant cs
      else ofCode high ++ meant ('\\' :: 'u' :: e :: f :: g :: h :: cs)
    | u, _ => ((u.map ofCode).getD []) ++ meant ('\\' :: 'u' :: e :: f :: g :: h :: cs)
  | '\\' :: 'u' :: a :: b :: c :: d :: cs => (((Json.unit? a b c d).map ofCode).getD []) ++ meant cs
  | '\\' :: 'x' :: a :: b :: cs => (((byte? a b).map ofCode).getD []) ++ meant cs
  | ['\\', '\n'] | ['\\', '\r'] | ['\\', '\r', '\n'] | ['\\', '\u00e2', '\u0080', '\u00a8']
  | ['\\', '\u00e2', '\u0080', '\u00a9'] => ['\x00']
  | '\\' :: '\r' :: '\n' :: cs | '\\' :: '\n' :: cs | '\\' :: '\r' :: cs
  | '\\' :: '\u00e2' :: '\u0080' :: '\u00a8' :: cs | '\\' :: '\u00e2' :: '\u0080' :: '\u00a9' :: cs => meant cs
  | '\\' :: c :: cs => ofShort c ++ meant cs
  | ['\\'] => []
  | c :: cs => c :: meant cs

def isLiteral (t : WrittenText) : Bool :=
  t.form != .escaped && t.form != .lenient

def content (t : WrittenText) : List Char :=
  if t.isLiteral then t.written else meant t.written

/-- The codes of the characters of the text up to the code 0. -/
def labelCodes (t : WrittenText) : List UInt32 :=
  (Text.letters (Text.bytesOfCodes (t.content.takeWhile (· != '\x00')))).map Text.rawCode

/-- Whether two texts are the same as names of members. -/
def agrees (a b : WrittenText) : Bool :=
  if a.isLiteral && b.isLiteral then a.written == b.written else a.labelCodes == b.labelCodes

/-- Writes what only a lenient reader knows as every reader knows it. -/
def strict : List Char → List Char
  | [] => []
  | '\\' :: 'x' :: a :: b :: cs => ['\\', 'u', '0', '0', a, b] ++ strict cs
  | '\\' :: 'v' :: cs => "\\u0009".toList ++ strict cs
  | '\\' :: '0' :: cs => "\\u0000".toList ++ strict cs
  | '\\' :: '\'' :: cs => '\'' :: strict cs
  | '\\' :: '\r' :: '\n' :: cs | '\\' :: '\n' :: cs | '\\' :: '\r' :: cs
  | '\\' :: '\u00e2' :: '\u0080' :: '\u00a8' :: cs | '\\' :: '\u00e2' :: '\u0080' :: '\u00a9' :: cs => strict cs
  | '\\' :: c :: cs => '\\' :: c :: strict cs
  | '"' :: cs => '\\' :: '"' :: strict cs
  | c :: cs => (if c.toNat < 0x20 then Json.escaped c else [c]) ++ strict cs

def quoted (t : WrittenText) : List Char :=
  match t.form with
  | .plain | .escaped => '"' :: t.written ++ ['"']
  | .lenient => '"' :: strict t.written ++ ['"']
  | .raw => '"' :: t.written.flatMap Json.escaped ++ ['"']
  | .bare => t.written

def isWhole : List Char → Bool
  | '\\' :: 'x' :: _ :: _ :: cs => isWhole cs
  | '\\' :: '\u00e2' :: '\u0080' :: c :: cs => (c == '\u00a8' || c == '\u00a9') && isWhole cs
  | '\\' :: c :: cs => c != 'x' && c != '\u00e2' && isWhole cs
  | ['\\'] => false
  | _ :: cs => isWhole cs
  | [] => true

end WrittenText

namespace Document

def ofChars (cs : List Char) : Document :=
  .text ⟨.raw, cs⟩

/-- The digits of a number in base 16 behind its mark, as decimal ones; more than 64 bits are too many. -/
def decimalOfHex (ds : List Char) : List Char :=
  let n := ds.foldl (fun n d => 16 * n + (Text.hexValue? d).getD 0) 0
  if n < UInt64.size then Text.natDigits n else "9.0e999".toList

/-- An integer in base 16, which may be negative, as every reader knows it. -/
def strictInteger : List Char → List Char
  | '-' :: ds => '-' :: decimalOfHex (ds.drop 2)
  | ds => decimalOfHex (ds.drop 2)

/-- Puts the zeros at a point that stand for missing digits behind it. -/
def closePoints : List Char → List Char
  | [] => []
  | '.' :: d :: cs => if Text.isDigit d then '.' :: closePoints (d :: cs) else '.' :: '0' :: closePoints (d :: cs)
  | ['.'] => ['.', '0']
  | c :: cs => c :: closePoints cs

/-- A fraction with the digits around its point that every reader asks for. -/
def strictDecimal : List Char → List Char
  | '-' :: '.' :: cs => '-' :: '0' :: closePoints ('.' :: cs)
  | '.' :: cs => '0' :: closePoints ('.' :: cs)
  | cs => closePoints cs

def writeLeaf : Document → List Char
  | bool true => "true".toList
  | bool false => "false".toList
  | integer true cs => strictInteger cs
  | decimal true cs => strictDecimal cs
  | integer false cs | decimal false cs => cs
  | text t => t.quoted
  | null | array _ | object _ => "null".toList

def separated (parts : List (List Char)) : List Char :=
  [','].intercalate parts

mutual

def write : Document → List Char
  | array items => '[' :: separated (writeItems items) ++ [']']
  | object members => '\x7b' :: separated (writeMembers members) ++ ['\x7d']
  | leaf => leaf.writeLeaf

def writeItems : List Document → List (List Char)
  | [] => []
  | d :: ds => d.write :: writeItems ds

def writeMembers : List (WrittenText × Document) → List (List Char)
  | [] => []
  | (t, d) :: ms => (t.quoted ++ ':' :: d.write) :: writeMembers ms

end

/-- What stands in front of a line. -/
def lineStart (indent : List Char) (level : Nat) : List Char :=
  (List.replicate level indent).flatten

mutual

/-- The document with a part a line, where `indent` stands in front of each line once for each level. -/
def writeLines (indent : List Char) (level : Nat) : Document → List Char
  | array [] => ['[', ']']
  | object [] => ['\x7b', '\x7d']
  | array items =>
    ['[', '\n'] ++ [',', '\n'].intercalate (writeItemLines indent (level + 1) items) ++
      '\n' :: lineStart indent level ++ [']']
  | object members =>
    ['\x7b', '\n'] ++ [',', '\n'].intercalate (writeMemberLines indent (level + 1) members) ++
      '\n' :: lineStart indent level ++ ['\x7d']
  | leaf => leaf.writeLeaf

def writeItemLines (indent : List Char) (level : Nat) : List Document → List (List Char)
  | [] => []
  | d :: ds => (lineStart indent level ++ writeLines indent level d) :: writeItemLines indent level ds

def writeMemberLines (indent : List Char) (level : Nat) : List (WrittenText × Document) → List (List Char)
  | [] => []
  | (t, d) :: ms =>
    (lineStart indent level ++ t.quoted ++ ':' :: ' ' :: writeLines indent level d) ::
      writeMemberLines indent level ms

end

def kind : Document → String
  | null => "null"
  | bool true => "true"
  | bool false => "false"
  | integer _ _ => "integer"
  | decimal _ _ => "real"
  | text _ => "text"
  | array _ => "array"
  | object _ => "object"

end Document

end AuditSearch.Sql
