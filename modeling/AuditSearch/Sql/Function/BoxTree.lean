import AuditSearch.Sql.Function.Format

/-!
Nodes of trees of boxes, which are kept as bytes: the height of the tree, the number of the cells, and the cells. A
cell has an id, and in each dimension two coordinates as fractions of 32 bits.
-/
namespace AuditSearch.Sql

namespace BoxTree

/-- The number that bytes are, the greatest digit first. -/
def numberOf (bytes : List UInt8) : Nat :=
  bytes.foldl (fun n b => n * 256 + b.toNat) 0

def idOf (bytes : List UInt8) : Int :=
  (numberOf bytes : Int).bmod (1 <<< 64)

/-- The fraction of four bytes, none if they are no number: a sign, an exponent of eight bits and the digits behind
the first one. -/
def coordinate? (bytes : List UInt8) : Option Real :=
  let n := numberOf bytes
  let negative := n >>> 31 == 1
  let exponent : Nat := (n >>> 23) % (1 <<< 8)
  let digits : Nat := n % (1 <<< 23)
  let signed (b : Binary) : Real := .ofMagnitude negative b
  if exponent == 255 then if digits == 0 then some (.infinite negative) else none
  else if exponent == 0 then some (signed ⟨digits, -149⟩)
  else some (signed ⟨(1 <<< 23) + digits, (exponent : Int) - 150⟩)

def coordinateText (bytes : List UInt8) : String :=
  match coordinate? bytes with
  | some r => ((Value.format [.text "%g", .real r]).text?).getD ""
  | none => "NaN"

def coordinates : List UInt8 → List (List UInt8)
  | a :: b :: c :: d :: rest => [a, b, c, d] :: coordinates rest
  | _ => []

def cellText (bytes : List UInt8) : String :=
  "\x7b" ++ " ".intercalate (Text.ofInt (idOf (bytes.take 8)) :: (coordinates (bytes.drop 8)).map coordinateText) ++
    "\x7d"

def cells (size : Nat) : Nat → List UInt8 → List (List UInt8)
  | 0, _ => []
  | n + 1, bytes => (bytes ++ List.replicate size 0).take size :: cells size n (bytes.drop size)

/-- The text of a node in so many dimensions, none if it has no cells or is too short. -/
def nodeText? (dimensions : Nat) (bytes : List UInt8) : Option String :=
  let size := 8 + 8 * dimensions
  let count := numberOf ((bytes.drop 2).take 2)
  if dimensions = 0 ∨ 5 < dimensions ∨ bytes.length < 4 ∨ bytes.length < count * size ∨ count = 0 then none
  else some (" ".intercalate ((cells size count (bytes.drop 4)).map cellText))

end BoxTree

namespace Value

/-- The height of the tree below a node. There is none if the value is no node. -/
def boxTreeDepth? : Value → Option Value
  | blob (a :: b :: _) => some (integer (BoxTree.numberOf [a, b]))
  | _ => none

def boxTreeNode (dimensions node : Value) : Value :=
  match node.textBytes? with
  | some bytes => ((BoxTree.nodeText? (dimensions.toInteger % 256).toNat bytes).map text).getD null
  | none => null

end Value

end AuditSearch.Sql
