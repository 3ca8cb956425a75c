import AuditSearch.Calendar
import AuditSearch.Condition.Basic
import AuditSearch.Failure
import AuditSearch.Query.Group

/-!
The condition of a group that bounds an instant by a day. The first included value counts alone.
-/
namespace AuditSearch

def DayBound.bound : DayBound → Bound
  | start => .atLeast
  | finish => .atMost

/-- The column lies on the right side of the bound of the day, by local time. -/
def Group.dayCondition (g : Group) (column : String) (bound : DayBound) (offset : Int) :
    Except Failure Condition :=
  match g.included with
  | [] => .ok .always
  | value :: _ =>
    match Calendar.boundInstant? value bound offset with
    | none => .error (.invalidDate g.field value)
    | some instant => .ok (.compare column bound.bound (.integer (Int64.ofInt instant)))

end AuditSearch
