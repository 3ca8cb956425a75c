import AuditSearch.Sql.Document.Binary
import AuditSearch.Sql.Document.Path
import AuditSearch.Sql.Function.Text

/-!
What there is in a document, one thing after the other in the order of its bytes: the members or items of the
whole, and those in them behind each if all are asked for. Each is known by the byte that it starts at.
-/
namespace AuditSearch.Sql.Document

/-- Something in a document. -/
structure Node where
  /-- Its name or its place in what it is in. -/
  key : Value
  content : Document
  /-- Where it starts, at its name if it has one. -/
  id : Nat
  /-- Where that starts which it is in, if all things are asked for. -/
  parent : Option Nat
  /-- The path that leads to it. -/
  fullKey : List Char
  /-- The path that leads to what it is in. -/
  path : List Char

/-- How many bytes a document takes. -/
def size (d : Document) : Nat :=
  d.toBytes.length

def insideOf (start : Nat) (d : Document) : Nat :=
  match d with
  | array items => start + (header 11 (itemBytes items).length).length
  | object members => start + (header 12 (memberBytes members).length).length
  | _ => start + 1

/-- A path to a member. A name of anything but letters and digits stands in quotes. -/
def memberPath (path : List Char) (name : WrittenText) : List Char :=
  let cs := name.written
  if cs.isEmpty || !cs.all Char.isAlphanum then path ++ ['.', '"'] ++ cs ++ ['"'] else path ++ '.' :: cs

def itemPath (path : List Char) (n : Nat) : List Char :=
  path ++ '[' :: Text.natDigits n ++ [']']

mutual

/-- What there is in a document that a path leads to: where it starts with its name, and where without. -/
def nodes (deep : Bool) (path : List Char) (id start : Nat) : Document → List Node
  | array items => itemNodes deep path id 0 (insideOf start (array items)) items
  | object members => memberNodes deep path id (insideOf start (object members)) members
  | _ => []

def itemNodes (deep : Bool) (path : List Char) (parent place start : Nat) : List Document → List Node
  | [] => []
  | d :: ds =>
    let fullKey := itemPath path place
    let own : Node := ⟨.integer place, d, start, if deep then some parent else none, fullKey, path⟩
    (own :: if deep then nodes deep fullKey start start d else []) ++
      itemNodes deep path parent (place + 1) (start + d.size) ds

def memberNodes (deep : Bool) (path : List Char) (parent start : Nat) :
    List (WrittenText × Document) → List Node
  | [] => []
  | (name, d) :: ms =>
    let fullKey := memberPath path name
    let own : Node := ⟨.ofCodes name.content, d, start, if deep then some parent else none, fullKey, path⟩
    let behindName := start + (textBytes name).length
    (own :: if deep then nodes deep fullKey start behindName d else []) ++
      memberNodes deep path parent (behindName + d.size) ms

end

/-- Where the thing starts that places lead to in a document, with its name and without. -/
def startOf (id start : Nat) : Document → List Nat → Nat × Nat
  | array items, n :: ns =>
    let next := insideOf start (array items) + ((items.take n).map size).sum
    startOf next next (items.getD n null) ns
  | object members, n :: ns =>
    let next := insideOf start (object members) + (memberBytes (members.take n)).length
    match members[n]? with
    | some (name, d) => startOf next (next + (textBytes name).length) d ns
    | none => (next, next)
  | _, _ => (id, start)

def startsInside (d : Document) (path : List Char) (id : Nat) : Bool :=
  match trace path.length path d with
  | .ok (places, e) => insideOf (startOf 0 0 d places).2 e == id
  | .error _ => false

/-- How long the part of a path is that leads to what the thing at its end is in, as far as that can be told from
where the thing starts: the longest that leads to something whose first part starts there, or else that of
the whole document; `n` bounds it. -/
def containerLength (d : Document) (path : List Char) (id : Nat) : Nat → Nat
  | 0 | 1 => 1
  | n + 1 =>
    let isEnd := match path[n]? with | some c => c == '[' || c == '.' | none => false
    if isEnd && startsInside d ((path.take n).drop 1) id then n else containerLength d path id n

def keyOfEnd : List Char → Value
  | '[' :: cs => .integer (Value.ofCodes cs).toInteger
  | _ :: '"' :: cs => .ofCodes cs.dropLast
  | _ :: cs => .ofCodes cs
  | [] => .null

/-- What there is in that part of a document that a path leads to. It comes first itself if all things are asked
for, or if it has no parts. -/
def outline (deep : Bool) (path : List Char) (d : Document) : Except PathFault (List Node) :=
  match path with
  | '$' :: rest => do
    let (places, found) ← trace rest.length rest d
    let (id, start) := startOf 0 0 d places
    let inside := nodes deep path id start found
    match deep, found with
    | true, _ =>
      let n := containerLength d path id path.length
      .ok (⟨if rest.isEmpty then .null else keyOfEnd (path.drop n), found, id, none, path, path.take n⟩ :: inside)
    | false, array _ | false, object _ => .ok inside
    | false, _ => .ok [⟨.null, found, id, none, path, path⟩]
  | _ => .error .malformed

end AuditSearch.Sql.Document
