import AuditSearch.Sql.Function.Text

/-!
Texts made of a format and values: each conversion of the format is replaced by the next value, written as
the conversion says. A conversion that is none ends the text. A format is read byte by byte, each as the
character of its code.
-/
namespace AuditSearch.Sql

/-- A conversion of a format: how a value is written, and as what. -/
structure Conversion where
  style : Style
  kind : Char

namespace Conversion

def takeInteger : List Value → Int × List Value
  | [] => (0, [])
  | v :: vs => (v.toInteger, vs)

def takeReal : List Value → Real × List Value
  | [] => (.zero, [])
  | v :: vs => (v.toReal, vs)

/-- The bytes of the first of some values as a text up to a null character, if it has one. -/
def takeText : List Value → Option (List UInt8) × List Value
  | [] => (none, [])
  | v :: vs => (v.textBytes?.map Value.visibleBytes, vs)

def toHalf (n : Int) : Int :=
  (Int32.ofInt n).toInt

def ofDigits (ds : List Char) : Nat :=
  Nat.ofDigitChars 10 ds 0 % (1 <<< 31)

def flags : Style → List Char → Style × List Char
  | s, '-' :: cs => flags { s with isLeft := true } cs
  | s, '+' :: cs => flags { s with sign := some '+' } cs
  | s, ' ' :: cs => flags { s with sign := some ' ' } cs
  | s, '#' :: cs => flags { s with isExplicit := true } cs
  | s, '!' :: cs => flags { s with isWide := true } cs
  | s, '0' :: cs => flags { s with isZeroPadded := true } cs
  | s, ',' :: cs => flags { s with hasThousands := true } cs
  | s, cs => (s, cs)

/-- A style with a width, which may be among the values. A negative one asks for spaces behind. -/
def width (s : Style) (vs : List Value) : List Char → Style × List Value × List Char
  | '*' :: cs =>
    let (n, vs) := takeInteger vs
    let n := toHalf n
    let s := if n < 0 then { s with isLeft := true } else s
    ({ s with width := if n = -(1 <<< 31) then 0 else n.natAbs }, vs, cs)
  | cs =>
    let (ds, rest) := cs.span Text.isDigit
    ({ s with width := ofDigits ds }, vs, rest)

def precision (s : Style) (vs : List Value) : List Char → Style × List Value × List Char
  | '.' :: '*' :: cs =>
    let (n, vs) := takeInteger vs
    let n := toHalf n
    ({ s with precision := if n = -(1 <<< 31) then none else some n.natAbs }, vs, cs)
  | '.' :: cs =>
    let (ds, rest) := cs.span Text.isDigit
    ({ s with precision := some (ofDigits ds) }, vs, rest)
  | cs => (s, vs, cs)

/-- Leaves out a size, which does not matter. -/
def withoutSize : List Char → List Char
  | 'l' :: 'l' :: cs | 'l' :: cs => cs
  | cs => cs

def kinds : List Char :=
  "diuroxpXfeEgGszcqQwn%".toList

def read? (vs : List Value) (cs : List Char) : Option (Conversion × List Value × List Char) :=
  let (s, cs) := flags .plain cs
  let (s, vs, cs) := width s vs cs
  let (s, vs, cs) := precision s vs cs
  match withoutSize cs with
  | [] => none
  | c :: cs => if kinds.contains c then some (⟨s, c⟩, vs, cs) else none

/-- So much of a text as a style asks for: so many bytes, or characters if the style is wide. -/
def cut (s : Style) (bytes : List UInt8) : List UInt8 :=
  match s.precision with
  | none => bytes
  | some n => if s.isWide then ((Text.letters bytes).take n).flatten else bytes.take n

def doubled (quote : UInt8) (bytes : List UInt8) : List UInt8 :=
  bytes.flatMap fun b => if b = quote then [b, b] else [b]

def padded (s : Style) (count : Nat) (body : List UInt8) : List UInt8 :=
  let spaces := List.replicate count 0x20
  if s.isLeft then body ++ spaces else spaces ++ body

/-- Puts spaces around a written form up to the width of a style, which counts bytes. -/
def filled (s : Style) (body : List UInt8) : List UInt8 :=
  padded s (s.width - body.length) body

/-- Puts spaces around a text up to the width of a style, which counts characters if the style is wide. -/
def filledText (s : Style) (body : List UInt8) : List UInt8 :=
  padded s (s.width - (if s.isWide then body.countP fun b => !Text.goesOn b else body.length)) body

/-- The bytes of the first character of a text; a null character stands for what is missing. -/
def firstLetter : Option (List UInt8) → List UInt8
  | none | some [] => [0]
  | some bytes => ((Text.letters bytes).headD []).take 4

/-- The first character of a text as often as the precision says, where the last one takes what is left of the
width. -/
def repeated (s : Style) (t : Option (List UInt8)) : List UInt8 :=
  let letter := firstLetter t
  let more := s.precision.getD 1 - 1
  let front := (List.replicate more letter).flatten
  let isFull := 0 < more && !s.isLeft && s.width - more > 1
  let last := filledText { s with isWide := true, width := if isFull then 0 else s.width - more } letter
  List.replicate (if isFull then s.width - more - 1 else 0) 0x20 ++ front ++ last

def doubleQuoteByte : UInt8 :=
  0x22

/-- The written form of a value, and the values behind it. There is none if the conversion is none. -/
def body? (c : Conversion) (vs : List Value) : Option (List UInt8 × List Value) :=
  let s := c.style
  let integer (f : IntegerForm) : Option (List UInt8 × List Value) :=
    let (n, vs) := takeInteger vs
    some (filled s (Text.bytesOfChars (f.write s n)), vs)
  let real (f : RealForm) (isUpper : Bool) : Option (List UInt8 × List Value) :=
    let (r, vs) := takeReal vs
    some (filled s (Text.bytesOfChars (f.write s isUpper r)), vs)
  let quoted (quote : UInt8) (missing : String) (around : List UInt8) : Option (List UInt8 × List Value) :=
    match takeText vs with
    | (none, vs) => some (filledText s (cut s (Text.bytesOf missing)), vs)
    | (some bytes, vs) => some (filledText s (around ++ doubled quote (cut s bytes) ++ around), vs)
  match c.kind with
  | 'd' | 'i' => integer .decimal
  | 'u' => integer .unsigned
  | 'r' => integer .ordinal
  | 'o' => integer .octal
  | 'x' => integer (.hex false false)
  | 'X' => integer (.hex true true)
  | 'p' => integer (.hex true false)
  | 'f' => real .fixed false
  | 'e' => real .scientific false
  | 'E' => real .scientific true
  | 'g' => real .general false
  | 'G' => real .general true
  | 's' | 'z' =>
    let (t, vs) := takeText vs
    some (filledText s (cut s (t.getD [])), vs)
  | 'c' =>
    let (t, vs) := takeText vs
    some (repeated s t, vs)
  | 'q' => quoted Value.quoteByte "(NULL)" []
  | 'Q' => quoted Value.quoteByte "NULL" [Value.quoteByte]
  | 'w' => quoted doubleQuoteByte "(NULL)" []
  | 'n' => some ([], vs)
  | '%' => some (filled s [0x25], vs)
  | _ => none

/-- Whether the written form has more bytes than a value may have. Texts have as many as they have, at most. -/
def isTooLong (c : Conversion) : Bool :=
  let s := c.style
  let places :=
    if ['f', 'e', 'E', 'g', 'G', 's', 'z', 'q', 'Q', 'w', 'n', '%'].contains c.kind then 0 else s.precision.getD 0
  decide (Value.maxSize < max s.width (places + 10))

/-- The pieces of the text of a format behind those in `done`, last one first; `fuel` bounds its length. There
are none at all if one is too long. -/
def pieces? : Nat → List (List UInt8) → List Char → List Value → Option (List (List UInt8))
  | 0, done, _, _ | _, done, [], _ => some done.reverse
  | _, done, ['%'], _ => some ([0x25] :: done).reverse
  | fuel + 1, done, '%' :: cs, vs =>
    match read? vs cs with
    | none => some done.reverse
    | some (c, vs, rest) =>
      if c.isTooLong then none
      else
        match c.body? vs with
        | none => some done.reverse
        | some (body, vs) => pieces? fuel (body :: done) rest vs
  | fuel + 1, done, c :: cs, vs =>
    let (plain, rest) := (c :: cs).span (· != '%')
    pieces? fuel (Text.bytesOfCodes plain :: done) rest vs

end Conversion

namespace Value

def format : List Value → Value
  | [] => null
  | v :: vs =>
    v.onBytes fun bytes =>
      let cs := Text.charsOfBytes (visibleBytes bytes)
      match Conversion.pieces? (cs.length + 1) [] cs vs with
      | none | some [] => null
      | some found => ofTextBytes found.flatten

end Value

end AuditSearch.Sql
