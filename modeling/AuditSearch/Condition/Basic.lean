import AuditSearch.Event

/-!
Conditions on events: a tree of connectives over tests of single columns. The constructing functions
drop neutral parts and flatten one level, so a condition built by them holds no needless connective.
-/
namespace AuditSearch

inductive Bound where
  | atLeast
  | atMost
  deriving DecidableEq, Repr

namespace Bound

def sign : Bound → String
  | atLeast => ">="
  | atMost => "<="

def holds : Bound → Int64 → Int64 → Bool
  | atLeast, a, b => decide (b ≤ a)
  | atMost, a, b => decide (a ≤ b)

end Bound

/-- A condition over the columns of an event, which it names by text. -/
inductive Condition where
  | always
  | never
  | all (parts : List Condition)
  | any (parts : List Condition)
  | not (part : Condition)
  | isIn (column : String) (values : List Literal)
  | notIn (column : String) (values : List Literal)
  | isNull (column : String)
  | compare (column : String) (bound : Bound) (value : Literal)
  /-- The role is one of those in a role list. -/
  | hasRole (column role : String)
  deriving Inhabited, Repr

namespace Condition

/-- The parts of a conjunction without its neutral ones, `none` if one of them never holds. -/
def allParts? : List Condition → Option (List Condition)
  | [] => some []
  | always :: cs => allParts? cs
  | never :: _ => none
  | all inner :: cs => (allParts? cs).map (inner ++ ·)
  | c :: cs => (allParts? cs).map (c :: ·)

def mkAll (parts : List Condition) : Condition :=
  match allParts? parts with
  | none => never
  | some [] => always
  | some [c] => c
  | some cs => all cs

/-- The parts of a disjunction without its neutral ones, `none` if one of them always holds. -/
def anyParts? : List Condition → Option (List Condition)
  | [] => some []
  | never :: cs => anyParts? cs
  | always :: _ => none
  | any inner :: cs => (anyParts? cs).map (inner ++ ·)
  | c :: cs => (anyParts? cs).map (c :: ·)

def mkAny (parts : List Condition) : Condition :=
  match anyParts? parts with
  | none => always
  | some [] => never
  | some [c] => c
  | some cs => any cs

def mkNot : Condition → Condition
  | always => never
  | never => always
  | not c => c
  | c => not c

def mkIn (column : String) (values : List Literal) : Condition :=
  if values.isEmpty then never else isIn column values

/-- Every value is outside an empty list. -/
def mkNotIn (column : String) (values : List Literal) : Condition :=
  if values.isEmpty then always else notIn column values

/-- The column is null or outside the list: an event without a value is none of those left out. -/
def mkNullOrNotIn (column : String) (values : List Literal) : Condition :=
  if values.isEmpty then always else mkAny [isNull column, mkNotIn column values]

/-- A name with a separator in it is no role of any list. -/
def mkHasRole (column role : String) : Condition :=
  if Roles.isCompound role then never else hasRole column role

def isAlways : Condition → Bool
  | always => true
  | _ => false

end Condition

end AuditSearch
