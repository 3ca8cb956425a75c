import AuditSearch.Sql.Document.Basic

/-!
Paths into documents: names of members and places of items, one behind the other. What a path leads to may be
read, put in, replaced or taken out.
-/
namespace AuditSearch.Sql.Document

/-- Why a path leads to nothing. -/
inductive PathFault where
  | missing
  | malformed
  deriving DecidableEq, Repr

/-- What happens to what a path leads to. -/
inductive Change where
  | remove
  | replace (d : Document)
  /-- Puts a document where there is none. -/
  | insert (d : Document)
  /-- Puts a document there, whether there is one or not. -/
  | set (d : Document)

def Change.inserted? : Change → Option Document
  | .insert d | .set d => some d
  | .remove | .replace _ => none

def Change.over (d : Document) : Change → Option Document
  | .remove => none
  | .insert _ => some d
  | .replace e | .set e => some e

def memberName? : List Char → Option (WrittenText × List Char)
  | '"' :: cs =>
    match cs.span (· != '"') with
    | (name, _ :: rest) => some (⟨if name.contains '\\' then .lenient else .raw, name⟩, rest)
    | (_, []) => none
  | cs =>
    let (name, rest) := cs.span fun c => c != '.' && c != '['
    if name.isEmpty then none else some (⟨.raw, name⟩, rest)

def placeNumber (ds : List Char) : Nat :=
  Nat.ofDigitChars 10 ds 0 % UInt32.size

/-- Reads the place of an item behind its bracket: one from the start, or one from the end. -/
def itemPlace? (count : Nat) (cs : List Char) : Except PathFault (Nat × List Char) :=
  let (ds, rest) := cs.span Text.isDigit
  match ds, rest with
  | _ :: _, ']' :: rest => .ok (placeNumber ds, rest)
  | _, _ =>
    match cs with
    | '#' :: ']' :: rest => .ok (count, rest)
    | '#' :: '-' :: cs =>
      let (ds, rest) := cs.span Text.isDigit
      let n := placeNumber ds
      if ds.isEmpty then .error .malformed
      else if count < n then .error .missing
      else
        match rest with
        | ']' :: rest => .ok (count - n, rest)
        | _ => .error .malformed
    | _ => .error .malformed

/-- The places of the members and items that a path goes through, and what it leads to; `fuel` bounds its
length. -/
def trace : Nat → List Char → Document → Except PathFault (List Nat × Document)
  | _, [], d => .ok ([], d)
  | 0, _, _ => .error .malformed
  | fuel + 1, '.' :: cs, d =>
    match memberName? cs, d with
    | none, _ => .error .malformed
    | some (name, rest), object members =>
      match members.zipIdx.find? fun (m, _) => name.agrees m.1 with
      | some ((_, e), i) => do
        let (places, found) ← trace fuel rest e
        .ok (i :: places, found)
      | none => .error .missing
    | some _, _ => .error .missing
  | fuel + 1, '[' :: cs, array items => do
    let (n, rest) ← itemPlace? items.length cs
    match items[n]? with
    | some e => do
      let (places, found) ← trace fuel rest e
      .ok (n :: places, found)
    | none => .error .missing
  | _ + 1, '[' :: _, _ => .error .missing
  | _, _, _ => .error .malformed

def follow (cs : List Char) (d : Document) : Except PathFault Document :=
  (·.2) <$> trace cs.length cs d

def putAt {α : Type} (xs : List α) (n : Nat) (x : Option α) : List α :=
  xs.take n ++ x.toList ++ xs.drop (n + 1)

/-- What a change makes of a document at the end of a path, or nothing if it is removed; `fuel` bounds the
length of the path. -/
def changeAt (change : Change) : Nat → List Char → Document → Except PathFault (Option Document)
  | _, [], d => .ok (change.over d)
  | 0, _, _ => .error .malformed
  | fuel + 1, '.' :: cs, d =>
    match memberName? cs, d with
    | none, _ => .error .malformed
    | some (name, rest), object members =>
      match members.findIdx? (fun m => name.agrees m.1), change.inserted? with
      | some i, _ => do
        let (label, e) := members.getD i (name, null)
        let e ← changeAt change fuel rest e
        .ok (some (object (putAt members i (e.map fun e => (label, e)))))
      | none, some new => do
        let e ← made fuel rest new
        .ok (some (object (members ++ [(name, e)])))
      | none, none => .error .missing
    | some _, _ => .error .missing
  | fuel + 1, '[' :: cs, array items => do
    let (n, rest) ← itemPlace? items.length cs
    match items[n]?, change.inserted? with
    | some e, _ =>
      let e ← changeAt change fuel rest e
      .ok (some (array (putAt items n e)))
    | none, some new =>
      if n = items.length then
        let e ← made fuel rest new
        .ok (some (array (items ++ [e])))
      else .error .missing
    | none, none => .error .missing
  | _ + 1, '[' :: _, _ => .error .missing
  | _, _, _ => .error .malformed
where
  /-- A document that holds another one at the end of a path. -/
  made (fuel : Nat) (rest : List Char) (new : Document) : Except PathFault Document :=
    match rest with
    | [] => .ok new
    | c :: _ => do
      let e ← changeAt change fuel rest (if c = '.' then object [] else array [])
      .ok (e.getD null)

mutual

/-- A document with the members of another one in it: a null takes its member out, and what is no object takes
the place of the whole. -/
def merged : Nat → Document → Document → Document
  | 0, target, _ => target
  | fuel + 1, target, object changes =>
    match target with
    | object members => object (mergedMembers fuel members changes)
    | _ => object (mergedMembers fuel [] changes)
  | _, _, patch => patch

def mergedMembers : Nat → List (WrittenText × Document) → List (WrittenText × Document) →
    List (WrittenText × Document)
  | 0, members, _ => members
  | _, members, [] => members
  | fuel + 1, members, (name, change) :: changes =>
    let place := members.findIdx? fun m => name.agrees m.1
    let next : List (WrittenText × Document) :=
      match place, change with
      | some i, null => putAt members i none
      | some i, change =>
        let (label, e) := members.getD i (name, null)
        putAt members i (some (label, merged fuel e change))
      | none, null => members
      | none, change => members ++ [(name, merged fuel null change)]
    mergedMembers fuel next changes

end

mutual

def count : Document → Nat
  | array items => countItems items + 1
  | object members => countMembers members + 1
  | _ => 1

def countItems : List Document → Nat
  | [] => 0
  | d :: ds => d.count + countItems ds

def countMembers : List (WrittenText × Document) → Nat
  | [] => 0
  | (_, d) :: ms => d.count + countMembers ms

end

def patched (target patch : Document) : Document :=
  merged (2 * patch.count + 2) target patch

end AuditSearch.Sql.Document
