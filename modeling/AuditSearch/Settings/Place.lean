/-!
Places of files and folders, and the written paths that lead to them. A path starts at a folder, leads
down by names and up by two points, and ends at a folder if a stroke stands at its end.
-/
namespace AuditSearch

/-- Where the names on the way to a place start. -/
inductive Origin where
  /-- The folder that is so many levels above the one that a path starts at. -/
  | above (levels : Nat)
  | root
  deriving DecidableEq, Repr

/-- The folder above an origin; there is none above the root. -/
def Origin.parent : Origin → Origin
  | above n => above (n + 1)
  | root => root

structure Place where
  origin : Origin
  names : List String
  deriving DecidableEq, Repr

namespace Place

/-- The folder that relative paths start at. -/
def here : Place :=
  ⟨.above 0, []⟩

def root : Place :=
  ⟨.root, []⟩

def parent (p : Place) : Place :=
  if p.names.isEmpty then { p with origin := p.origin.parent } else { p with names := p.names.dropLast }

def child (p : Place) (name : String) : Place :=
  { p with names := p.names ++ [name] }

end Place

namespace Path

def maxNameBytes : Nat :=
  255

/-- A path has fewer bytes than this. -/
def maxBytes : Nat :=
  4096

/-- Whether a path can lead anywhere. -/
def isValid (path : String) : Bool :=
  decide (path.utf8ByteSize < maxBytes) && !path.toList.contains '\x00'

def start (path : String) : Place :=
  if path.toList.head? = some '/' then .root else .here

def parts (path : String) : List String :=
  (path.toList.splitOn '/').map String.ofList

/-- Whether a part of a path leads on where it is. -/
def stays (part : String) : Bool :=
  part.isEmpty || part == "."

end Path

end AuditSearch
