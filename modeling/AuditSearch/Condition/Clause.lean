import AuditSearch.Condition.Basic
import AuditSearch.Filter
import AuditSearch.Text.Wildcard

/-!
The filter of a condition: its clause and the parameters of the clause. Connectives inside
connectives stand in parentheses. Integers are written into the clause and texts are parameters,
except that the texts of a long list are written in quotes.
-/
namespace AuditSearch.Condition

/-- A list of more values than this is long. -/
def maxBoundTexts : Nat :=
  256

/-- A quoted text cannot hold a null character. -/
def isQuotable (s : String) : Bool :=
  !s.toList.contains (Char.ofNat 0)

/-- One value of a list, which is `long` or not. -/
def valueFilter (long : Bool) : Literal → Filter
  | .integer n => .text (Literal.integer n).quoted
  | .text s => if long && isQuotable s then .text (Literal.text s).quoted else ⟨"?", [.text s]⟩

def listFilter (values : List Literal) : Filter :=
  .joined ", " (values.map (valueFilter (decide (maxBoundTexts < values.length))))

/-- The pattern that finds a role in a stored list with a separator put at both ends. -/
def rolePattern (role : String) : String :=
  String.ofList (['%', ','] ++ Text.escapeWildcards role.toList ++ [',', '%'])

def isConnective : Condition → Bool
  | all _ | any _ => true
  | _ => false

def parenthesised (f : Filter) : Filter :=
  .text "(" ++ f ++ .text ")"

/-- The filters of the parts of a connective, or `neutral` if it has none. -/
def connected (between neutral : String) (parts : List Filter) : Filter :=
  if parts.isEmpty then .text neutral else .joined between parts

mutual

def toFilter : Condition → Filter
  | always => .text "1 = 1"
  | never => .text "1 = 0"
  | all parts => connected " AND " "1 = 1" (partFilters parts)
  | any parts => connected " OR " "1 = 0" (partFilters parts)
  | not part => .text "NOT " ++ parenthesised (toFilter part)
  | isIn column values =>
    if values.isEmpty then .text "1 = 0"
    else .text (column ++ " IN ") ++ parenthesised (listFilter values)
  | notIn column values =>
    if values.isEmpty then .text "1 = 1"
    else .text (column ++ " NOT IN ") ++ parenthesised (listFilter values)
  | isNull column => .text (column ++ " IS NULL")
  | compare column bound value => ⟨column ++ " " ++ bound.sign ++ " ?", [value]⟩
  | hasRole column role =>
    if Roles.isCompound role then .text "1 = 0"
    else ⟨"(',' || " ++ column ++ " || ',') LIKE ? ESCAPE '\\'", [.text (rolePattern role)]⟩

def partFilters : List Condition → List Filter
  | [] => []
  | c :: cs => (if isConnective c then parenthesised (toFilter c) else toFilter c) :: partFilters cs

end

end AuditSearch.Condition
