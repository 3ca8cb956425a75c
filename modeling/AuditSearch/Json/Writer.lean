import AuditSearch.Json.Shortest
import AuditSearch.Json.Value

/-!
Writing a JSON document, on one line or with one value a line and two spaces for each level.
-/
namespace AuditSearch.Json

inductive Layout where
  | compact
  | indented
  deriving DecidableEq, Repr

def hexDigit (n : Nat) : Char :=
  if n < 10 then Char.ofNat ('0'.toNat + n) else Char.ofNat ('a'.toNat + (n - 10))

/-- A character inside quotes. Only quotes, backslashes and control characters are escaped. -/
def escaped (c : Char) : List Char :=
  if c = '"' then ['\\', '"']
  else if c = '\\' then ['\\', '\\']
  else if c = '\x08' then ['\\', 'b']
  else if c = '\x0c' then ['\\', 'f']
  else if c = '\n' then ['\\', 'n']
  else if c = '\r' then ['\\', 'r']
  else if c = '\t' then ['\\', 't']
  else if c.toNat < 0x20 then ['\\', 'u', '0', '0', hexDigit (c.toNat / 16), hexDigit (c.toNat % 16)]
  else [c]

/-- A text in quotes. A text without content is written as half a surrogate pair. -/
def quotedText : Option String → List Char
  | some s => '"' :: s.toList.flatMap escaped ++ ['"']
  | none => "\"\\ud800\"".toList

/-- What separates values at a level. -/
def lineBreak (layout : Layout) (level : Nat) : List Char :=
  match layout with
  | .compact => []
  | .indented => '\n' :: List.replicate (2 * level) ' '

/-- What separates a key and its value. -/
def keyEnd : Layout → List Char
  | .compact => [':']
  | .indented => [':', ' ']

mutual

def write (layout : Layout) (level : Nat) : Json → List Char
  | .null => "null".toList
  | .bool true => "true".toList
  | .bool false => "false".toList
  | .integer n => (Text.ofInt n).toList
  | .decimal s => decimalText s
  | .text s => quotedText s
  | .array [] => "[]".toList
  | .array (j :: js) =>
    '[' :: lineBreak layout (level + 1) ++ write layout (level + 1) j ++
      writeItems layout (level + 1) js ++ lineBreak layout level ++ [']']
  | .object [] => ['{', '}']
  | .object ((key, j) :: ms) =>
    '{' :: lineBreak layout (level + 1) ++ quotedText key ++ keyEnd layout ++
      write layout (level + 1) j ++ writeMembers layout (level + 1) ms ++ lineBreak layout level ++ ['}']

/-- The items after the first one, each behind a comma. -/
def writeItems (layout : Layout) (level : Nat) : List Json → List Char
  | [] => []
  | j :: js => ',' :: lineBreak layout level ++ write layout level j ++ writeItems layout level js

/-- The members after the first one, each behind a comma. -/
def writeMembers (layout : Layout) (level : Nat) : List (Option String × Json) → List Char
  | [] => []
  | (key, j) :: ms =>
    ',' :: lineBreak layout level ++ quotedText key ++ keyEnd layout ++ write layout level j ++
      writeMembers layout level ms

end

def print (layout : Layout) (j : Json) : String :=
  String.ofList (write layout 0 j)

end AuditSearch.Json
