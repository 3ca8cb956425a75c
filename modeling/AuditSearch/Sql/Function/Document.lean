import AuditSearch.Sql.Document.Binary
import AuditSearch.Sql.Document.Path
import AuditSearch.Sql.Document.Reader
import AuditSearch.Sql.Document.Soundness
import AuditSearch.Sql.Function.Text

/-!
Functions of documents. A text that one of them made counts as a document where another one takes a value; any
other text counts as a text in it.
-/
namespace AuditSearch.Sql

/-- A function of documents that is called by name. -/
inductive DocumentRoutine where
  /-- The document without what the paths lead to. -/
  | remove
  | array
  | object
  | quote
  | arrayLength
  | faultPlace
  | extract
  /-- What a path or a name leads to, as a document or as a value. -/
  | arrow (toValue : Bool)
  | insert
  | replace
  | set
  | patch
  | lines
  | kind
  | isValid
  deriving DecidableEq, Repr

namespace Value

/-- The bytes of a value's text up to a null character, as the characters of their codes. -/
def path? (v : Value) : Option (List Char) :=
  v.codes?.map visible

/-- The part that a value is, if it is a document in bytes as far as its header tells. -/
def documentPart? : Value → Option Document.Part
  | blob bytes => Document.onlyPart? bytes
  | _ => none

/-- The document that a value is, which null is not. There is none at all for anything else. -/
def document? (v : Value) : Option (Option Document) :=
  match v, v.documentPart? with
  | null, _ => some none
  | _, some p => p.document?.map some
  | v, _ => (Document.read? (v.path?.getD [])).map some

def part? (v : Value) : Option Document :=
  match v, v.documentPart? with
  | null, _ => some .null
  | integer n, _ => some (.integer false (Text.ofInt n).toList)
  | real (.infinite negative), _ => some (.decimal false (if negative then "-9e999" else "9e999").toList)
  | real r, _ => some (.decimal false r.toText.toList)
  | document s, _ => Document.read? (Text.charsOfBytes (Text.bytesOf s))
  | broken bytes true, _ => Document.read? (Text.charsOfBytes bytes)
  | text s, _ => some (.ofChars (Text.charsOfBytes (Text.bytesOf s)))
  | broken bytes false, _ => some (.ofChars (Text.charsOfBytes bytes))
  | blob _, some p => p.document?
  | blob _, none => none

/-- A value as it is written in a document. There is none for bytes that are no document. -/
def writtenPart? : Value → Option (List Char)
  | real r =>
    some (RealForm.general.write { Style.plain with isWide := true, isZeroPadded := true, precision := some 15 }
      false r)
  | document s => some (Text.charsOfBytes (Text.bytesOf s))
  | broken bytes true => some (Text.charsOfBytes bytes)
  | v => v.part?.map Document.write

/-- A written document as a result, in bytes or as a text. There is none in bytes for one that is malformed. -/
def ofWrittenDocument (asBytes : Bool) (cs : List Char) : Option Value :=
  if asBytes then (Document.read? cs).map fun d => blob d.toBytes else some (ofDocumentBytes (Text.bytesOfCodes cs))

def ofDocument (asBytes : Bool) (d : Document) : Value :=
  if asBytes then blob d.toBytes else ofDocumentBytes (Text.bytesOfCodes d.write)

/-- The integer that a written one stands for; one of more than 64 bits is rounded. -/
def ofWrittenInteger? (cs : List Char) : Option Value :=
  let (isNegative, ds) : Bool × List Char :=
    match cs with
    | '-' :: ds => (true, ds)
    | ds => (false, ds)
  let signed (n : Int) : Int := if isNegative then -n else n
  match ds with
  | '0' :: x :: ds =>
    if x = 'x' ∨ x = 'X' then
      let n := ds.foldl (fun n d => 16 * n + (Text.hexValue? d).getD 0) 0
      if n < UInt64.size then some (integer (Int64.ofInt (signed (Int64.ofNat n).toInt)).toInt) else none
    else none
  | ds =>
    if ds.isEmpty || !ds.all Text.isDigit then none
    else
      let n := signed (wholeNumber ds)
      some (if (Text.toInt64? n).isSome then integer n
        else ((Sql.number? (String.ofList cs)).map ofNumber).getD null)

def ofDocumentValue? (asBytes : Bool) : Document → Option Value
  | .null => some null
  | .bool b => some (ofTruth (some b))
  | .integer _ cs => ofWrittenInteger? cs
  | .decimal _ cs => (Sql.number? (String.ofList cs)).map fun n => real (ofNumber n).toReal
  | .text t => some (ofCodes t.content)
  | d => some (ofDocument asBytes d)

end Value

namespace DocumentRoutine

def atPath (cs : List Char) (d : Document) : Except Document.PathFault Document :=
  match cs with
  | '$' :: rest => Document.follow rest d
  | _ => .error .malformed

/-- A result for what a path leads to: null if it leads to nothing, and none if it is malformed. -/
def onPath (f : Document → Option Value) : Except Document.PathFault Document → Option Value
  | .ok d => f d
  | .error .missing => some .null
  | .error .malformed => none

def onDocument (f : Document → Option Value) (v : Value) : Option Value :=
  v.document?.bind fun
    | none => some .null
    | some d => f d

def onPlace (f : Document → Option Value) (v path : Value) : Option Value :=
  v |> onDocument fun d =>
    match path.path? with
    | none => some .null
    | some cs => onPath f (atPath cs d)

/-- The path that a value next to an arrow stands for: the place of an item, the name of a member, or a path. -/
def arrowPath (v : Value) (cs : List Char) : List Char :=
  let isItem := cs.head? == some '[' && 3 ≤ cs.length && cs.getLast? == some ']'
  match v with
  | .integer _ => '$' :: '[' :: cs ++ [']']
  | _ =>
    if cs.head? == some '$' then cs
    else if cs.all fun c => c.isAlphanum || c == '_' then '$' :: '.' :: cs
    else if isItem then '$' :: cs
    else '$' :: '.' :: '"' :: cs ++ ['"']

/-- What several paths lead to, each as an item of an array. A path that is null makes null. -/
def extractAll (asBytes : Bool) (d : Document) (paths : List Value) : Option Value :=
  let rec items : List Value → Option (Option (List (List Char)))
    | [] => some (some [])
    | p :: ps =>
      match p.path? with
      | none => some none
      | some cs =>
        let item : Option (List Char) :=
          match atPath cs d with
          | .ok e => some e.write
          | .error .missing => some "null".toList
          | .error .malformed => none
        item.bind fun item => (items ps).map fun rest => rest.map (item :: ·)
  (items paths).bind fun
    | none => some .null
    | some parts => Value.ofWrittenDocument asBytes ('[' :: Document.separated parts ++ [']'])

def itself (asBytes : Bool) (v : Value) : Option Value :=
  match asBytes, v.documentPart? with
  | true, some _ => some v
  | _, _ => onDocument (fun d => some (Value.ofDocument asBytes d)) v

/-- The document without what paths lead to. A path that is null, or leads to the whole, makes null. -/
def removeAll (asBytes : Bool) (d : Document) : List Value → Option Value
  | [] => some (Value.ofDocument asBytes d)
  | p :: ps =>
    match p.path? with
    | none | some ['$'] => some .null
    | some ('$' :: cs) =>
      match Document.changeAt .remove cs.length cs d with
      | .ok e => removeAll asBytes (e.getD .null) ps
      | .error .missing => removeAll asBytes d ps
      | .error .malformed => none
    | some _ => none

/-- The document with values at paths. A path that is null is left out. -/
def changeAll (change : Document → Document.Change) (asBytes : Bool) : Document → List Value → Option Value
  | d, p :: v :: rest =>
    match p.path? with
    | none => changeAll change asBytes d rest
    | some ('$' :: cs) =>
      v.part?.bind fun part =>
        match Document.changeAt (change part) cs.length cs d with
        | .ok e => changeAll change asBytes (e.getD .null) rest
        | .error .missing => changeAll change asBytes d rest
        | .error .malformed => none
    | some _ => none
  | d, _ => some (Value.ofDocument asBytes d)

def changed (change : Document → Document.Change) (asBytes : Bool) : List Value → Option Value
  | [] => some .null
  | [v] => itself asBytes v
  | v :: rest =>
    if rest.length % 2 = 0 then onDocument (fun d => changeAll change asBytes d rest) v else none

def members? : List Value → Option (List (List Char))
  | [] => some []
  | name :: v :: rest =>
    if !name.isText then none
    else do
      let value ← v.writtenPart?
      let others ← members? rest
      some (((WrittenText.mk .raw (name.codes?.getD [])).quoted ++ ':' :: value) :: others)
  | [_] => none

/-- Whether a byte goes on with a character that another one starts. -/
def isGoingOn (c : Char) : Bool :=
  decide (0x80 ≤ c.toNat) && decide (c.toNat < 0xC0)

/-- Where a text that is no document has its fault, from 1, or 0 if it is one. -/
def faultPlaceOf (v : Value) : Value :=
  match v, v.documentPart? with
  | .null, _ => .null
  | .blob bytes, some p => .integer ((p.fault? bytes).getD 0)
  | v, _ =>
    let cs := v.path?.getD []
    match Document.read cs with
    | (some _, _) => .integer 0
    | (none, t) => .integer ((cs.take (cs.length - t.stuck.length)).countP (!isGoingOn ·) + 1)

/-- Whether a value is a document. The flags tell which kinds of documents count: strict texts, lenient texts,
and bytes by their header or all of them. -/
def validity (v : Value) (flags : Int) : Option Value :=
  let has (bit : Nat) : Bool := flags.toNat / bit % 2 == 1
  if flags < 1 ∨ 15 < flags then none
  else
    match v, v.documentPart? with
    | .null, _ => some .null
    | .blob bytes, some p => some (.ofTruth (some (has 4 || (has 8 && (p.fault? bytes).isNone))))
    | v, _ =>
      let (d, t) := Document.read (v.path?.getD [])
      some (.ofTruth (some (d.isSome && (has 2 || (has 1 && t.isStrict)))))

/-- The value of a call. There is none if the database gives up. -/
def apply (asBytes : Bool) : DocumentRoutine → List Value → Option Value
  | remove, [] => some .null
  | remove, [v] => itself asBytes v
  | remove, v :: paths => onDocument (fun d => removeAll asBytes d paths) v
  | array, vs =>
    (vs.mapM Value.writtenPart?).bind fun parts =>
      Value.ofWrittenDocument asBytes ('[' :: Document.separated parts ++ [']'])
  | object, vs =>
    (members? vs).bind fun parts =>
      Value.ofWrittenDocument asBytes ('\x7b' :: Document.separated parts ++ ['\x7d'])
  | quote, [v] => v.writtenPart?.map fun cs => .ofDocumentBytes (Text.bytesOfCodes cs)
  | arrayLength, [v] => onDocument (fun d => some (.integer (itemCount d))) v
  | arrayLength, [v, path] => onPlace (fun d => some (.integer (itemCount d))) v path
  | faultPlace, [v] => some (faultPlaceOf v)
  | extract, [v, path] => onPlace (Value.ofDocumentValue? asBytes) v path
  | extract, v :: p :: ps => onDocument (fun d => extractAll asBytes d (p :: ps)) v
  | arrow toValue, [v, place] =>
    v |> onDocument fun d =>
      match place.path? with
      | none => some .null
      | some cs =>
        let result (e : Document) : Option Value :=
          if toValue then (Value.ofDocumentValue? false e).map Value.unmarked
          else some (Value.ofDocument false e)
        onPath result (atPath (arrowPath place cs) d)
  | insert, vs => changed .insert asBytes vs
  | replace, vs => changed .replace asBytes vs
  | set, vs => changed .set asBytes vs
  | patch, [v, w] =>
    v |> onDocument fun d => w |> onDocument fun e => some (Value.ofDocument asBytes (d.patched e))
  | lines, [v] => onDocument (fun d => some (.ofCodes (d.writeLines (List.replicate 4 ' ') 0))) v
  | lines, [v, indent] =>
    onDocument (fun d => some (.ofCodes (d.writeLines (indent.path?.getD (List.replicate 4 ' ')) 0))) v
  | kind, [v] => onDocument (fun d => some (.text d.kind)) v
  | kind, [v, path] => onPlace (fun d => some (.text d.kind)) v path
  | isValid, [v] => validity v 1
  | isValid, [v, flags] => validity v flags.toInteger
  | _, _ => some .null
where
  /-- How many items an array has; anything else has none. -/
  itemCount : Document → Nat
    | .array items => items.length
    | _ => 0

end DocumentRoutine

end AuditSearch.Sql
