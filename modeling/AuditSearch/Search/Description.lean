import AuditSearch.Search.Compiler
import AuditSearch.Text.Quoted

/-!
The one-line description of a compiler, for people to read.
-/
namespace AuditSearch

def describeRecord (name : String) (members : List (String × String)) : String :=
  name ++ " \x7b " ++ String.intercalate ", " (members.map fun m => m.1 ++ ": " ++ m.2) ++ " \x7d"

/-- An offset in hours and minutes, and in seconds if there are any. -/
def describeOffset (seconds : Int) : String :=
  let n := seconds.natAbs
  (if seconds < 0 then "-" else "+") ++ Text.twoDigits (n / 3600) ++ ":" ++
    Text.twoDigits (n / 60 % 60) ++ if n % 60 = 0 then "" else ":" ++ Text.twoDigits (n % 60)

def Treatment.describe : Treatment → String
  | skip => "Skip"
  | fail => "Fail"

def Policy.describe (p : Policy) : String :=
  describeRecord "ParsePolicy"
    [("unknown_fields", p.unknownFields.describe), ("invalid_values", p.invalidValues.describe)]

def Compiler.describe (c : Compiler) : String :=
  describeRecord "SearchCompiler"
    [("fields", Text.ofInt c.catalog.entries.length),
      ("identities", Text.shown c.directory.name),
      ("federated",
        match c.federated with
        | none => "None"
        | some d => "Some(" ++ Text.shown d.name ++ ")"),
      ("utc_offset", describeOffset c.offsetSeconds),
      ("policy", c.policy.describe)]

end AuditSearch
