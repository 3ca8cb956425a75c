import AuditSearch.Condition.Basic
import AuditSearch.Text.Lower
import AuditSearch.Truth

/-!
The meaning of a condition for one event, in three-valued truth: a test of a null column is unknown,
and an event is accepted only if the condition is true of it.
-/
namespace AuditSearch.Condition

/-- Whether a value loosely equals one of a list. -/
def oneOf (value : Literal) (values : List Literal) : Bool :=
  values.any fun v => v.looselyEquals value

/-- Whether the list in a role column names the role, the case of ASCII letters aside. -/
def listsRole (role : String) : Literal → Bool
  | .integer _ => false
  | .text stored => (Roles.parse stored).any fun r => Text.equalAsciiFold r role

mutual

def truth (e : Event) : Condition → Truth
  | always => some true
  | never => some false
  | all parts => Truth.all (truths e parts)
  | any parts => Truth.any (truths e parts)
  | not part => Truth.not (truth e part)
  | isIn column values =>
    if values.isEmpty then some false else (e.column? column).map fun v => oneOf v values
  | notIn column values =>
    if values.isEmpty then some true else (e.column? column).map fun v => !oneOf v values
  | isNull column => some (e.column? column).isNone
  | compare column bound value => do
    let left ← (e.column? column).bind Literal.asInteger?
    let right ← value.asInteger?
    some (bound.holds left right)
  | hasRole column role =>
    if Roles.isCompound role then some false else (e.column? column).map (listsRole role)

def truths (e : Event) : List Condition → List Truth
  | [] => []
  | c :: cs => truth e c :: truths e cs

end

def accepts (c : Condition) (e : Event) : Bool :=
  c.truth e == some true

end AuditSearch.Condition
