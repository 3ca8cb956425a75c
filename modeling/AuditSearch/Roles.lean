import AuditSearch.Text.Blank

/-!
Role lists. An event or identity keeps its roles in one text, joined by commas, so a role whose name
holds a comma cannot be told from two roles.
-/
namespace AuditSearch.Roles

def separator : Char :=
  ','

def join (roles : List String) : String :=
  String.intercalate "," roles

/-- The roles in a stored text: its pieces between commas, trimmed, without the empty ones. -/
def parse (stored : String) : List String :=
  ((stored.toList.splitOn separator).map fun piece => Text.trim (String.ofList piece)).filter
    fun role => !role.isEmpty

/-- Whether a role name holds the separator and so names no single role. -/
def isCompound (role : String) : Bool :=
  role.toList.contains separator

end AuditSearch.Roles
