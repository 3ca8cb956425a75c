/-!
Three-valued truth: `some true`, `some false`, and `none` for unknown.
-/
namespace AuditSearch

abbrev Truth :=
  Option Bool

namespace Truth

def not (a : Truth) : Truth :=
  a.map (!·)

/-- False if one side is, else unknown if one side is. -/
def and : Truth → Truth → Truth
  | some false, _ | _, some false => some false
  | some true, some true => some true
  | _, _ => none

/-- True if one side is, else unknown if one side is. -/
def or : Truth → Truth → Truth
  | some true, _ | _, some true => some true
  | some false, some false => some false
  | _, _ => none

def all (parts : List Truth) : Truth :=
  parts.foldr and (some true)

def any (parts : List Truth) : Truth :=
  parts.foldr or (some false)

end Truth

end AuditSearch
