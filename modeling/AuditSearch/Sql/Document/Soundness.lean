import AuditSearch.Sql.Document.Binary
import AuditSearch.Sql.Document.Reader

/-!
The check of documents in bytes, to the last byte: whether each part is of its kind, and where the first fault
stands, counted from 1. Reading a document asks for less.
-/
namespace AuditSearch.Sql.Document

/-- The place of the first character that a class does not have, where the first of all is at `place`. -/
def firstOutside (isInside : Char → Bool) (place : Nat) (cs : List Char) : Option Nat :=
  (cs.findIdx? fun c => !isInside c).map (place + ·)

def isUnescaped (c : Char) : Bool :=
  decide (0x20 ≤ c.toNat) && c != '"' && c != '\\'

/-- The fault of an integer that starts at `place`, in a part that starts at `start`. -/
def integerFault (start place : Nat) : List Char → Option Nat
  | [] | ['-'] => some start
  | '-' :: ds => firstOutside Text.isDigit (place + 1) ds
  | ds => firstOutside Text.isDigit place ds

def hexFault (start place : Nat) (cs : List Char) : Option Nat :=
  let unsigned (place : Nat) : List Char → Option Nat
    | '0' :: x :: d :: ds =>
      if x = 'x' ∨ x = 'X' then firstOutside isHexDigit (place + 2) (d :: ds) else some (place + 1)
    | _ => some start
  match cs with
  | '-' :: ds => unsigned (place + 1) ds
  | ds => unsigned place ds
where
  isHexDigit (c : Char) : Bool := (Text.hexValue? c).isSome

/-- What has been met of a fraction: its point, and its exponent. -/
inductive Met where
  | nothing
  | point
  | exponent
  deriving DecidableEq

def fractionFault (isLenient : Bool) (start : Nat) : Nat → Met → List Char → Option Nat
  | _, met, [] => if met = .nothing then some start else none
  | place, met, '.' :: cs =>
    let isClosed := isLenient || cs.head?.any Text.isDigit
    if met ≠ .nothing || !isClosed then some place else fractionFault isLenient start (place + 1) .point cs
  | place, met, c :: cs =>
    if Text.isDigit c then fractionFault isLenient start (place + 1) met cs
    else if c = 'e' ∨ c = 'E' then
      if met = .exponent then some place
      else
        match cs with
        | [] => some place
        | s :: rest =>
          if s = '+' ∨ s = '-' then
            if rest.isEmpty then some (place + 1) else fractionFault isLenient start (place + 2) .exponent rest
          else fractionFault isLenient start (place + 1) .exponent (s :: rest)
    else some place

def decimalFault (isLenient : Bool) (start place : Nat) (cs : List Char) : Option Nat :=
  let unsigned (place : Nat) : List Char → Option Nat
    | '.' :: rest =>
      if !isLenient then some place
      else
        match rest with
        | d :: rest => if Text.isDigit d then fractionFault isLenient start (place + 2) .point rest else some place
        | [] => some place
    | '0' :: rest =>
      if isLenient then fractionFault isLenient start (place + 1) .nothing rest
      else
        match rest with
        | c :: _ :: _ =>
          if c = '.' ∨ c = 'e' ∨ c = 'E' then fractionFault isLenient start (place + 1) .nothing rest else some place
        | _ => some place
    | cs => fractionFault isLenient start place .nothing cs
  match cs with
  | [] | [_] | ['-', _] => some start
  | '-' :: cs => unsigned (place + 1) cs
  | cs => unsigned place cs

/-- How many characters the ends of lines behind backslashes have at the start of a list; `fuel` bounds it. -/
def lineEndsSize : Nat → List Char → Nat
  | fuel + 1, '\\' :: '\r' :: '\n' :: cs => 3 + lineEndsSize fuel cs
  | fuel + 1, '\\' :: '\r' :: cs | fuel + 1, '\\' :: '\n' :: cs => 2 + lineEndsSize fuel cs
  | fuel + 1, '\\' :: '\u00e2' :: '\u0080' :: c :: cs =>
    if c = '\u00a8' ∨ c = '\u00a9' then 4 + lineEndsSize fuel cs else 0
  | _, _ => 0

/-- How many characters an escape has at the start of a list, with ends of lines in front of it and, behind these,
a character that is none. There is none if it stands for nothing; `fuel` bounds the ends of lines. -/
def escapeSize? : Nat → List Char → Option Nat
  | fuel + 1, '\\' :: c :: cs =>
    if c = 'u' then
      match cs with
      | _ :: _ :: _ :: _ :: _ => some 6
      | _ => none
    else if c = 'x' then
      match cs with
      | _ :: _ :: _ => some 4
      | _ => none
    else if (WrittenText.shortCode? c).isSome then some 2
    else
      let n := lineEndsSize (cs.length + 1) ('\\' :: c :: cs)
      if n = 0 then none
      else
        match ('\\' :: c :: cs).drop n with
        | '\\' :: rest => (escapeSize? fuel ('\\' :: rest)).map (n + ·)
        | _ => some n
  | _, _ => none

def isShortEscape (c : Char) : Bool :=
  (Json.shortEscape? c).isSome || c == '\x00'

/-- The fault of a text with escapes; `fuel` bounds its length. -/
def escapedFault (isLenient : Bool) : Nat → Nat → List Char → Option Nat
  | 0, _, _ | _, _, [] => none
  | fuel + 1, place, c :: cs =>
    if isUnescaped c then escapedFault isLenient fuel (place + 1) cs
    else if c ≠ '\\' then
      if isLenient then escapedFault isLenient fuel (place + 1) cs else some place
    else
      match cs with
      | [] => some place
      | d :: rest =>
        if isShortEscape d then escapedFault isLenient fuel (place + 2) rest
        else if d = 'u' then
          match rest with
          | a :: b :: c :: e :: _ =>
            if (Json.unit? a b c e).isSome then escapedFault isLenient fuel (place + 2) rest else some place
          | _ => some place
        else if !isLenient then some place
        else
          match escapeSize? (rest.length + 1) ('\\' :: cs) with
          | some n => escapedFault isLenient fuel (place + n) (('\\' :: cs).drop n)
          | none => some place

def headerSize (b : UInt8) : Nat :=
  let code := b.toNat / 16
  if code ≤ 11 then 1 else 1 + 1 <<< (code - 12)

mutual

/-- The place of the first fault of a part that starts at `start`, behind a header of some bytes, in so many
others; `fuel` bounds the parts. -/
def partFault : Nat → Nat → Nat → Nat → Part → Option Nat
  | 0, _, _, start, _ => some start
  | fuel + 1, depth, header, start, p =>
    let place := start + header
    let cs := Text.charsOfBytes p.payload
    if maxDepth < depth then some start
    else
      match p.kind with
      | 0 | 1 | 2 => if header + p.payload.length = 1 then none else some start
      | 3 => integerFault start place cs
      | 4 => hexFault start place cs
      | 5 => decimalFault false start place cs
      | 6 => decimalFault true start place cs
      | 7 => firstOutside isUnescaped place cs
      | 8 => escapedFault false cs.length place cs
      | 9 => escapedFault true cs.length place cs
      | 10 => none
      | 11 => faultInside fuel (depth + 1) none place p.payload
      | 12 => faultInside fuel (depth + 1) (some true) place p.payload
      | _ => some start

/-- The place of the first fault of parts one after the other. If they are members, every other one is a name, and
it is told whether the next one is. -/
def faultInside : Nat → Nat → Option Bool → Nat → List UInt8 → Option Nat
  | 0, _, _, place, _ => some place
  | _, _, isName, place, [] => if isName == some false then some place else none
  | fuel + 1, depth, isName, place, b :: bytes =>
    match part? (b :: bytes) with
    | none => some place
    | some (p, rest) =>
      if isName == some true && (textForm? p.kind).isNone then some place
      else
        match partFault fuel depth (headerSize b) place p with
        | some n => some n
        | none => faultInside fuel depth (isName.map not) (place + headerSize b + p.payload.length) rest

end

/-- The place of the first fault of bytes that are one part, counted from 1. -/
def Part.fault? (p : Part) (bytes : List UInt8) : Option Nat :=
  partFault (2 * bytes.length + 2) 1 ((bytes.head?.map headerSize).getD 1) 1 p

end AuditSearch.Sql.Document
