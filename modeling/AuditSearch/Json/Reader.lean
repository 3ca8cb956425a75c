import AuditSearch.Json.Token
import AuditSearch.Json.Value

/-!
Reading a JSON document. The tokens are taken one by one, and the containers that are part way
through are kept on a stack.
-/
namespace AuditSearch.Json

/-- A container that awaits a value: what stands in it so far, last one first. -/
inductive Frame where
  | array (done : List Json)
  | object (done : List (Option String × Json)) (key : Option String)

/-- What may come next. -/
inductive Awaiting where
  | value (stack : List Frame)
  | firstItem (stack : List Frame)
  | nextItem (done : List Json) (stack : List Frame)
  | firstKey (stack : List Frame)
  | key (done : List (Option String × Json)) (stack : List Frame)
  | colon (done : List (Option String × Json)) (key : Option String) (stack : List Frame)
  | nextMember (done : List (Option String × Json)) (stack : List Frame)
  | nothing (document : Json)

/-- Puts a finished value where it is awaited. -/
def deliver (j : Json) : List Frame → Awaiting
  | [] => .nothing j
  | .array done :: stack => .nextItem (j :: done) stack
  | .object done key :: stack => .nextMember ((key, j) :: done) stack

def takeValue? (stack : List Frame) : Token → Option Awaiting
  | .null => some (deliver .null stack)
  | .bool b => some (deliver (.bool b) stack)
  | .integer n => some (deliver (.integer n) stack)
  | .decimal w => some (deliver (.decimal w) stack)
  | .text s => some (deliver (.text s) stack)
  | .openArray => some (.firstItem stack)
  | .openObject => some (.firstKey stack)
  | _ => none

def take? : Awaiting → Token → Option Awaiting
  | .value stack, t => takeValue? stack t
  | .firstItem stack, .closeArray => some (deliver (.array []) stack)
  | .firstItem stack, t => takeValue? (.array [] :: stack) t
  | .nextItem done stack, .comma => some (.value (.array done :: stack))
  | .nextItem done stack, .closeArray => some (deliver (.array done.reverse) stack)
  | .firstKey stack, .closeObject => some (deliver (.object []) stack)
  | .firstKey stack, .text key => some (.colon [] key stack)
  | .key done stack, .text key => some (.colon done key stack)
  | .colon done key stack, .colon => some (.value (.object done key :: stack))
  | .nextMember done stack, .comma => some (.key done stack)
  | .nextMember done stack, .closeObject => some (deliver (.object done.reverse) stack)
  | _, _ => none

def Awaiting.document? : Awaiting → Option Json
  | .nothing j => some j
  | _ => none

/-- The value of a document, with nothing but spaces around it. -/
def parse? (s : String) : Option Json := do
  let ts ← tokens? s
  let finished ← ts.foldlM take? (.value [])
  finished.document?

end AuditSearch.Json
