/-!
Texts as bytes, which may be those of no characters. A byte that starts a character takes all bytes behind it that
go on with one, and any other byte counts as a character of its own; so all bytes have a place among the
characters, and none is lost.
-/
namespace AuditSearch.Text

def bytesOf (s : String) : List UInt8 :=
  s.toUTF8.data.toList

def bytesOfChars (cs : List Char) : List UInt8 :=
  bytesOf (String.ofList cs)

/-- The text that bytes are, if they are those of characters. -/
def ofBytes? (bytes : List UInt8) : Option String :=
  String.fromUTF8? ⟨bytes.toArray⟩

/-- Whether a byte goes on with a character that another one starts. -/
def goesOn (b : UInt8) : Bool :=
  b &&& 0xC0 == 0x80

/-- Whether a byte starts a character that others go on with. -/
def startsLong (b : UInt8) : Bool :=
  decide (0xC0 ≤ b)

/-- The characters of some bytes, the last one first, and each from its last byte. -/
structure Split where
  done : List (List UInt8)
  /-- Whether the last one may go on. -/
  isOpen : Bool

/-- Adds a byte to the last character, or as the start of another one. -/
def Split.add (s : Split) (b : UInt8) : Split :=
  match s.isOpen && goesOn b, s.done with
  | true, l :: ls => ⟨(b :: l) :: ls, true⟩
  | _, ls => ⟨[b] :: ls, startsLong b⟩

def letters (bytes : List UInt8) : List (List UInt8) :=
  ((bytes.foldl Split.add ⟨[], false⟩).done.map List.reverse).reverse

/-- Bytes as the characters of their codes, so that what is ASCII can be read as it is. -/
def charsOfBytes (bytes : List UInt8) : List Char :=
  bytes.map fun b => Char.ofNat b.toNat

def bytesOfCodes (cs : List Char) : List UInt8 :=
  cs.map fun c => UInt8.ofNat c.toNat

def startBits (b : UInt8) : UInt32 :=
  if b < 0xE0 then (b &&& 0x1F).toUInt32
  else if b < 0xF0 then (b &&& 0x0F).toUInt32
  else if b < 0xF8 then (b &&& 0x07).toUInt32
  else if b < 0xFC then (b &&& 0x03).toUInt32
  else if b < 0xFE then (b &&& 0x01).toUInt32
  else 0

/-- The code that stands for what is no character. -/
def replacementCode : UInt32 :=
  0xFFFD

/-- The code that the bytes of a character make, whatever it stands for. -/
def rawCode : List UInt8 → UInt32
  | [] => 0
  | b :: bs =>
    if startsLong b then bs.foldl (fun (code : UInt32) b => (code <<< 6) + (b &&& 0x3F).toUInt32) (startBits b)
    else b.toUInt32

/-- The code of a character from its bytes: that of the replacement character if they are too many for it, or if
it is half of a pair or one of the two that are none in the first plane. -/
def letterCode (letter : List UInt8) : UInt32 :=
  let code := rawCode letter
  let isNone := code < 0x80 || code &&& 0xFFFFF800 == 0xD800 || code &&& 0xFFFFFFFE == 0xFFFE
  if (letter.head?.any startsLong) && isNone then replacementCode else code

/-- The bytes of a code, whether it is that of a character or not. -/
def bytesOfCode (n : Nat) : List UInt8 :=
  let part (shift : Nat) : Nat := 0x80 + (n >>> shift) % 64
  let codes :=
    if n < 0x80 then [n]
    else if n < 0x800 then [0xC0 + n >>> 6, part 0]
    else if n < 0x10000 then [0xE0 + n >>> 12, part 6, part 0]
    else [0xF0 + n >>> 18, part 12, part 6, part 0]
  codes.map UInt8.ofNat

/-- What the bytes of a character that has started need: how many more, and within which bounds the next one. -/
structure Owed where
  count : Nat
  least : UInt8
  greatest : UInt8

namespace Owed

def nothing : Owed :=
  ⟨0, 0x80, 0xBF⟩

/-- What a first byte needs behind it, if it can be one. -/
def first? (b : UInt8) : Option Owed :=
  if b < 0x80 then some nothing
  else if b < 0xC2 then none
  else if b < 0xE0 then some ⟨1, 0x80, 0xBF⟩
  else if b < 0xF0 then
    some ⟨2, if b = 0xE0 then 0xA0 else 0x80, if b = 0xED then 0x9F else 0xBF⟩
  else if b < 0xF5 then
    some ⟨3, if b = 0xF0 then 0x90 else 0x80, if b = 0xF4 then 0x8F else 0xBF⟩
  else none

/-- What is needed behind a further byte, if it may be there. -/
def next? (o : Owed) (b : UInt8) : Option Owed :=
  if o.least ≤ b ∧ b ≤ o.greatest then some ⟨o.count - 1, 0x80, 0xBF⟩ else none

end Owed

/-- Characters that have been read, the last one first, and the bytes of the one that has started, if any. -/
structure Reading where
  done : List Char
  started : List UInt8
  owed : Owed

namespace Reading

def start (done : List Char) (b : UInt8) : Reading :=
  match Owed.first? b with
  | none => ⟨'\uFFFD' :: done, [], .nothing⟩
  | some ⟨0, _, _⟩ => ⟨Char.ofNat b.toNat :: done, [], .nothing⟩
  | some owed => ⟨done, [b], owed⟩

/-- Reads a byte. Where it cannot go on with the character that has started, that one is replaced. -/
def add (r : Reading) (b : UInt8) : Reading :=
  if r.started.isEmpty then start r.done b
  else
    match r.owed.next? b with
    | none => start ('\uFFFD' :: r.done) b
    | some ⟨0, _, _⟩ => ⟨Char.ofNat (letterCode (b :: r.started).reverse).toNat :: r.done, [], .nothing⟩
    | some owed => ⟨r.done, b :: r.started, owed⟩

end Reading

/-- The text of some bytes, with the replacement character for each run of bytes that cannot be one. -/
def replacing (bytes : List UInt8) : String :=
  let r := bytes.foldl Reading.add ⟨[], [], .nothing⟩
  String.ofList (if r.started.isEmpty then r.done else '\uFFFD' :: r.done).reverse

/-- The text of some bytes, where those of no characters are replaced. -/
def ofBytes (bytes : List UInt8) : String :=
  (ofBytes? bytes).getD (replacing bytes)

end AuditSearch.Text
