import AuditSearch.Sql.Document.Basic

/-!
Documents as bytes: each part is a header, which tells its kind and how many bytes it has, and its bytes behind it.
-/
namespace AuditSearch.Sql.Document

/-- A part of a document in bytes, whose own parts are not read yet. -/
structure Part where
  kind : Nat
  payload : List UInt8

def bigEndian (count n : Nat) : List UInt8 :=
  (List.range count).reverse.map fun i => UInt8.ofNat (n >>> (8 * i))

/-- The header of a part of a kind that has so many bytes, in as few bytes as it needs. -/
def header (kind size : Nat) : List UInt8 :=
  if size ≤ 11 then [UInt8.ofNat (16 * size + kind)]
  else if size ≤ 0xff then UInt8.ofNat (16 * 12 + kind) :: bigEndian 1 size
  else if size ≤ 0xffff then UInt8.ofNat (16 * 13 + kind) :: bigEndian 2 size
  else UInt8.ofNat (16 * 14 + kind) :: bigEndian 4 size

def withHeader (kind : Nat) (payload : List UInt8) : List UInt8 :=
  header kind payload.length ++ payload

def textKind : TextForm → Nat
  | .plain => 7
  | .escaped => 8
  | .lenient => 9
  | .raw | .bare => 10

def textBytes (t : WrittenText) : List UInt8 :=
  withHeader (textKind t.form) (Text.bytesOfCodes t.written)

mutual

def toBytes : Document → List UInt8
  | null => header 0 0
  | bool true => header 1 0
  | bool false => header 2 0
  | integer isLenient cs => withHeader (if isLenient then 4 else 3) (Text.bytesOfCodes cs)
  | decimal isLenient cs => withHeader (if isLenient then 6 else 5) (Text.bytesOfCodes cs)
  | text t => textBytes t
  | array items => withHeader 11 (itemBytes items)
  | object members => withHeader 12 (memberBytes members)

def itemBytes : List Document → List UInt8
  | [] => []
  | d :: ds => d.toBytes ++ itemBytes ds

def memberBytes : List (WrittenText × Document) → List UInt8
  | [] => []
  | (t, d) :: ms => textBytes t ++ d.toBytes ++ memberBytes ms

end

def ofBigEndian (bytes : List UInt8) : Nat :=
  bytes.foldl (fun n b => 256 * n + b.toNat) 0

def part? : List UInt8 → Option (Part × List UInt8)
  | [] => none
  | b :: bytes =>
    let (kind, code) := (b.toNat % 16, b.toNat / 16)
    let sizeBytes := if code ≤ 11 then 0 else 1 <<< (code - 12)
    let sizeDigits := bytes.take sizeBytes
    let size := if code ≤ 11 then code else ofBigEndian sizeDigits
    let behind := bytes.drop sizeBytes
    let payload := behind.take size
    if sizeDigits.length < sizeBytes ∨ payload.length < size then none
    else some (⟨kind, payload⟩, behind.drop size)

/-- The one part that some bytes are, as far as its header tells. -/
def onlyPart? (bytes : List UInt8) : Option Part := do
  let (p, rest) ← part? bytes
  if rest.isEmpty ∧ p.kind ≤ 12 ∧ (p.kind ≤ 2 → p.payload.isEmpty) then some p else none

def textForm? : Nat → Option TextForm
  | 7 => some .plain
  | 8 => some .escaped
  | 9 => some .lenient
  | 10 => some .raw
  | _ => none

def textOfPart? (p : Part) : Option WrittenText := do
  let form ← textForm? p.kind
  let written := Text.charsOfBytes p.payload
  if form == .lenient && !WrittenText.isWhole written then none else some ⟨form, written⟩

/-- A number has one character at least. -/
def numberOfPart? (make : List Char → Document) (p : Part) : Option Document :=
  if p.payload.isEmpty then none else some (make (Text.charsOfBytes p.payload))

/-- Splits off the part at the start of some bytes. One that needs no bytes behind its first one takes none. -/
def nextPart? (bytes : List UInt8) : Option (Part × List UInt8) :=
  (part? bytes).map fun (p, rest) => (p, if p.kind ≤ 2 then bytes.drop 1 else rest)

/-- An integer in base 16 has digits alone behind its mark. -/
def hexOfPart? (p : Part) : Option Document := do
  let d ← numberOfPart? (integer true) p
  let digits := (p.payload.drop (if p.payload.head? == some 0x2D then 3 else 2))
  if (Text.charsOfBytes digits).all fun c => (Text.hexValue? c).isSome then some d else none

mutual

/-- The document of a part; `fuel` bounds its bytes and those of the parts in it. -/
def ofPart? : Nat → Part → Option Document
  | 0, _ => none
  | fuel + 1, p =>
    match p.kind with
    | 0 => some null
    | 1 => some (bool true)
    | 2 => some (bool false)
    | 3 => numberOfPart? (integer false) p
    | 4 => hexOfPart? p
    | 5 => numberOfPart? (decimal false) p
    | 6 => numberOfPart? (decimal true) p
    | 11 => (itemsOf? fuel p.payload).map array
    | 12 => (membersOf? fuel p.payload).map object
    | _ => (textOfPart? p).map text

def itemsOf? : Nat → List UInt8 → Option (List Document)
  | _, [] => some []
  | 0, _ => none
  | fuel + 1, bytes => do
    let (p, rest) ← nextPart? bytes
    let d ← ofPart? fuel p
    let ds ← itemsOf? fuel rest
    some (d :: ds)

def membersOf? : Nat → List UInt8 → Option (List (WrittenText × Document))
  | _, [] => some []
  | 0, _ => none
  | fuel + 1, bytes => do
    let (label, rest) ← nextPart? bytes
    let name ←
      match ← ofPart? fuel label with
      | text t => some t
      | d => some ⟨.bare, d.write⟩
    let (p, rest) ← nextPart? rest
    let d ← ofPart? fuel p
    let ms ← membersOf? fuel rest
    some ((name, d) :: ms)

end

def Part.document? (p : Part) : Option Document :=
  ofPart? (2 * p.payload.length + 2) p

end AuditSearch.Sql.Document
