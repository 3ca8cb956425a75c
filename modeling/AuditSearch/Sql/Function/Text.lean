import AuditSearch.Sql.Value
import AuditSearch.Text.Wildcard

/-!
Functions of texts. A number counts as its written form, and null makes null.
-/
namespace AuditSearch.Sql.Value

def onBytes (f : List UInt8 → Value) (v : Value) : Value :=
  match v.textBytes? with
  | none => null
  | some bytes => f bytes

def onAllBytes (f : List UInt8 → List UInt8 → Value) (x y : Value) : Value :=
  x.onBytes fun a => y.onBytes (f a)

def ofChars (cs : List Char) : Value :=
  text (String.ofList cs)

/-- The text of the bytes of which characters have the codes. -/
def ofCodes (cs : List Char) : Value :=
  ofTextBytes (Text.bytesOfCodes cs)

def codes? (v : Value) : Option (List Char) :=
  v.textBytes?.map Text.charsOfBytes

def concatenate (x y : Value) : Value :=
  onAllBytes (fun a b => ofTextBytes (a ++ b)) x y

/-- All texts in one, where null counts as empty. -/
def concatenateAll (vs : List Value) : Value :=
  ofTextBytes (vs.flatMap fun v => v.textBytes?.getD [])

/-- All texts that are not empty, with a separator between them. -/
def concatenateWith (separator : Value) (vs : List Value) : Value :=
  separator.onBytes fun s =>
    let parts := (vs.filterMap textBytes?).filter fun bytes => !bytes.isEmpty
    ofTextBytes (s.intercalate parts)

def visible (cs : List Char) : List Char :=
  cs.takeWhile (· != '\x00')

def visibleBytes (bytes : List UInt8) : List UInt8 :=
  bytes.takeWhile (· != 0)

/-- The number of characters, or of bytes if it is no text. -/
def length : Value → Value
  | blob bytes => integer bytes.length
  | v => v.onBytes fun bytes => integer (Text.letters (visibleBytes bytes)).length

def octetLength (v : Value) : Value :=
  v.onBytes fun bytes => integer bytes.length

/-- The byte of the capital letter, for that of a small ASCII letter. -/
def raiseByte (b : UInt8) : UInt8 :=
  if 0x61 ≤ b ∧ b ≤ 0x7A then b - 0x20 else b

/-- The small letters of a text; only ASCII letters have one. -/
def lower (v : Value) : Value :=
  v.onBytes fun bytes => ofTextBytes (bytes.map Collation.foldByte)

def upper (v : Value) : Value :=
  v.onBytes fun bytes => ofTextBytes (bytes.map raiseByte)

/-- The small letters of a text, by the rules for all letters. All else is as it is. -/
def unicodeLower : Value → Value
  | text s | document s => text (Text.lower s)
  | broken bytes _ => text (Text.lower (Text.ofBytes bytes))
  | v => v

def hexDigit (n : Nat) : Char :=
  if n < 10 then Char.ofNat ('0'.toNat + n) else Char.ofNat ('A'.toNat + (n - 10))

def hexDigits (bytes : List UInt8) : List Char :=
  bytes.flatMap fun b => [hexDigit (b.toNat / 16), hexDigit (b.toNat % 16)]

def hex (v : Value) : Value :=
  ofChars (hexDigits (v.textBytes?.getD []))

/-- The place of the first occurrence of a part from so many places on, or 0 if there is none. A text is gone
through from character to character; `fuel` bounds the steps. -/
def placeOf (inText : Bool) (part : List UInt8) : Nat → Nat → List UInt8 → Nat
  | 0, _, _ => 0
  | fuel + 1, place, whole =>
    if part.isPrefixOf whole then place
    else
      match whole with
      | [] => 0
      | _ :: rest => placeOf inText part fuel (place + 1) (if inText then rest.dropWhile Text.goesOn else rest)

/-- The place of the first occurrence of a part, from 1, or 0 if there is none. -/
def instr (whole part : Value) : Value :=
  match whole, part with
  | blob a, blob b => integer (placeOf false b (a.length + 1) 1 a)
  | x, y => onAllBytes (fun a b => integer (placeOf true b (a.length + 1) 1 a)) x y

def unicode (v : Value) : Value :=
  match v.textBytes?.map fun bytes => Text.letters (visibleBytes bytes) with
  | some (l :: _) => integer (Text.letterCode l).toNat
  | _ => null

def maxCode : Int :=
  0x10FFFF

/-- The text of these codes; a number that is none stands for the replacement character. -/
def char (vs : List Value) : Value :=
  ofTextBytes (vs.flatMap fun v =>
    let n := v.toInteger
    Text.bytesOfCode (if n < 0 ∨ maxCode < n then Text.replacementCode.toNat else n.toNat))

/-- What stands behind the members of a set at the start of a list; `fuel` bounds their number. -/
def afterMembers (set : List (List UInt8)) : Nat → List UInt8 → List UInt8
  | 0, bytes => bytes
  | fuel + 1, bytes =>
    match set.find? fun l => !bytes.isEmpty && l.isPrefixOf bytes with
    | some l => afterMembers set fuel (bytes.drop l.length)
    | none => bytes

def trimLeft (set : List (List UInt8)) (bytes : List UInt8) : List UInt8 :=
  afterMembers set bytes.length bytes

def trimRight (set : List (List UInt8)) (bytes : List UInt8) : List UInt8 :=
  (afterMembers (set.map List.reverse) bytes.length bytes.reverse).reverse

/-- A text without the characters of a set at one end or both. -/
def trimmed (trim : List (List UInt8) → List UInt8 → List UInt8) (v set : Value) : Value :=
  onAllBytes (fun bytes set => ofTextBytes (trim (Text.letters (visibleBytes set)) bytes)) v set

/-- Where a piece starts, from 0, and how long it is. A negative place counts from the end, a negative
length to the front, and place 0 is in front of the first one. -/
def pieceBounds (size : Nat) (place length : Int) : Nat × Nat :=
  let count : Int := length.natAbs
  let (start, count) : Int × Int :=
    if place < 0 then
      if place + size < 0 then (0, max (count + place + size) 0) else (place + size, count)
    else if 0 < place then (place - 1, count)
    else (0, if 0 < count then count - 1 else count)
  let (start, count) : Int × Int :=
    if length < 0 then
      if start - count < 0 then (0, start) else (start - count, count)
    else (start, count)
  (start.toNat, count.toNat)

def halfWord (n : Int) : Int :=
  (Int32.ofInt n).toInt

def piece {α : Type} (xs : List α) (place length : Int) : List α :=
  let (start, count) := pieceBounds xs.length place length
  (xs.drop start).take count

/-- A piece of a text or of bytes, to the end if there is no length. No bytes have no piece. -/
def substr (v place : Value) (length : Option Value) : Value :=
  if place == null || length == some null then null
  else
    let place := halfWord place.toInteger
    let length := (length.map fun n => halfWord n.toInteger).getD maxSize
    match v with
    | blob [] => null
    | blob bytes => blob (piece bytes place length)
    | v => v.onBytes fun bytes => ofTextBytes (piece (Text.letters (visibleBytes bytes)) place length).flatten

/-- Replaces each occurrence of a part, from the left; `done` is what stands in front, from its last byte, and
`fuel` bounds the steps. -/
def replaceWithin (part by_ : List UInt8) : Nat → List UInt8 → List UInt8 → List UInt8
  | fuel + 1, done, b :: bytes =>
    if part.isPrefixOf (b :: bytes) then
      replaceWithin part by_ fuel (by_.reverse ++ done) ((b :: bytes).drop part.length)
    else replaceWithin part by_ fuel (b :: done) bytes
  | _, done, _ => done.reverse

/-- Replaces each occurrence of a part. An empty part has none. -/
def replace (v part by_ : Value) : Value :=
  onAllBytes (fun bytes part =>
    if part.isEmpty || part.head? == some 0 then ofTextBytes bytes
    else by_.onBytes fun by_ => ofTextBytes (replaceWithin part by_ bytes.length [] bytes)) v part

/-- The written form of a number in a clause: with 15 digits if these tell it from all others, else with 20
digits behind its point. -/
def writtenReal (r : Real) : List Char :=
  let style := { Style.plain with isWide := true, isZeroPadded := true }
  let short := RealForm.general.write { style with precision := some 15 } false r
  if (leadingNumber (String.ofList short)) == .real r then short
  else RealForm.scientific.write { style with precision := some 20 } false r

def quoteByte : UInt8 :=
  0x27

def quote : Value → Value
  | null => text "NULL"
  | integer n => text (Text.ofInt n)
  | real r => ofChars (writtenReal r)
  | blob bytes => ofChars (['X', '\''] ++ hexDigits bytes ++ ['\''])
  | v =>
    v.onBytes fun bytes =>
      let inside := (visibleBytes bytes).flatMap fun b => if b = quoteByte then [b, b] else [b]
      ofTextBytes (quoteByte :: inside ++ [quoteByte])

/-- The digit of a letter in the code of its sound, 0 for one that has none. -/
def soundDigit (c : Char) : Nat :=
  match c.toLower with
  | 'b' | 'f' | 'p' | 'v' => 1
  | 'c' | 'g' | 'j' | 'k' | 'q' | 's' | 'x' | 'z' => 2
  | 'd' | 't' => 3
  | 'l' => 4
  | 'm' | 'n' => 5
  | 'r' => 6
  | _ => 0

def lowChar (b : UInt8) : Char :=
  Char.ofNat (b &&& 0x7F).toNat

/-- The digits of bytes, which count as their low seven bits, of equal ones in a row the first alone. -/
def soundDigits : Nat → List UInt8 → List Nat
  | _, [] => []
  | previous, b :: bs =>
    let d := soundDigit (lowChar b)
    if d = 0 then soundDigits 0 bs
    else if d = previous then soundDigits previous bs
    else d :: soundDigits d bs

/-- The code of the sound of a text: its first ASCII letter and three digits. -/
def soundex (v : Value) : Value :=
  let isLetter (b : UInt8) : Bool := b < 0x80 && (lowChar b).isAlpha
  match (visibleBytes (v.textBytes?.getD [])).dropWhile fun b => !isLetter b with
  | [] => text "?000"
  | b :: bs =>
    let digits := ((soundDigits (soundDigit (lowChar b)) bs).take 3).map hexDigit
    ofChars ((lowChar b).toUpper :: digits ++ List.replicate (3 - digits.length) '0')

def hexOfCode? (code : UInt32) : Option Nat :=
  if code < 0x80 then Text.hexValue? (Char.ofNat code.toNat) else none

/-- The bytes that pairs of hexadecimal digits stand for, where characters are given by their codes. Other ones may
be ignored between the pairs. There are none if what is left is no digit. -/
def pairedBytes? (ignored : List UInt32) : List UInt32 → Option (List UInt8)
  | [] => some []
  | [c] => if ignored.contains c && (hexOfCode? c).isNone then some [] else none
  | c :: d :: cs =>
    match hexOfCode? c with
    | none => if ignored.contains c then pairedBytes? ignored (d :: cs) else none
    | some high => do
      let low ← hexOfCode? d
      let rest ← pairedBytes? ignored cs
      some (UInt8.ofNat (16 * high + low) :: rest)

/-- The bytes that hexadecimal digits stand for, null if there are none. -/
def unhex : Value → Value → Value :=
  onAllBytes fun bytes ignored =>
    let codes (bytes : List UInt8) : List UInt32 := (Text.letters bytes).map Text.letterCode
    ((pairedBytes? (codes ignored) (codes (visibleBytes bytes))).map blob).getD null

def typeName : Value → String
  | null => "null"
  | integer _ => "integer"
  | real _ => "real"
  | text _ | document _ | broken _ _ => "text"
  | blob _ => "blob"

def maxPatternBytes : Nat :=
  50000

def readable (bytes : List UInt8) : List Char :=
  (Text.letters (visibleBytes bytes)).map fun l => Char.ofNat (Text.letterCode l).toNat

/-- A result for a pattern and a text, null if one of them is. There is none if the pattern is too long. -/
def matched? (accepts : List Char → List Char → Bool) (pattern subject : Value) : Option Value :=
  match pattern.textBytes?, subject.textBytes? with
  | none, _ => some null
  | some p, s =>
    if maxPatternBytes < p.length then none
    else some (ofTruth (s.map fun s => accepts (readable p) (readable s)))

def like? (pattern subject : Value) : Option Value :=
  matched? (Text.isLike none) pattern subject

def likeEscaped? (pattern subject escape : Value) : Option Value :=
  match escape.textBytes? with
  | none => matched? (fun _ _ => false) pattern null
  | some e =>
    match readable e with
    | [c] => matched? (Text.isLike (some c)) pattern subject
    | _ => none

def glob? (pattern subject : Value) : Option Value :=
  matched? Text.isGlob pattern subject

end AuditSearch.Sql.Value
