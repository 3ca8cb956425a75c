import AuditSearch.Text.Blank
import AuditSearch.Text.LetterCase

/-!
Lower-casing of a text. Every letter has one small form, except the capital sigma, which becomes a
final sigma at the end of a word.
-/
namespace AuditSearch.Text

/-- The small form of a character, whatever stands around it. -/
def lowerChar (c : Char) : List Char :=
  if c.toNat < 0x80 then [c.toLower]
  else if c = 'İ' then ['i', Char.ofNat 0x0307]
  else
    match caseRuns.findSome? fun r => r.lower? c.toNat with
    | some n => [Char.ofNat n]
    | none => [c]

/-- Whether the first character that is not case-ignorable is a letter with case. -/
def startsCased (cs : List Char) : Bool :=
  match cs.dropWhile (inRanges caseIgnorableRanges) with
  | [] => false
  | c :: _ => inRanges casedRanges c

/-- Lower-cases `cs`; `before` holds the characters in front of it, last one first. -/
def lowerAfter (before : List Char) : List Char → List Char
  | [] => []
  | c :: cs =>
    let small :=
      if c = 'Σ' then
        if startsCased before && !startsCased cs then ['ς'] else ['σ']
      else lowerChar c
    small ++ lowerAfter (c :: before) cs

def lower (s : String) : String :=
  String.ofList (lowerAfter [] s.toList)

/-- ASCII letters without their case, all other characters as they are. -/
def asciiFold (cs : List Char) : List Char :=
  cs.map Char.toLower

/-- Equality that ignores the case of ASCII letters only. -/
def equalAsciiFold (a b : String) : Bool :=
  asciiFold a.toList == asciiFold b.toList

end AuditSearch.Text
