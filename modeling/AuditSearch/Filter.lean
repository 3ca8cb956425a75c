import AuditSearch.Literal

/-!
Filters: the text of a clause with a question mark for each parameter, and the parameters in order.
-/
namespace AuditSearch

structure Filter where
  clause : String
  params : List Literal
  deriving DecidableEq, Repr

namespace Filter

/-- The filter that every event passes. -/
def always : Filter :=
  ⟨"1 = 1", []⟩

def text (clause : String) : Filter :=
  ⟨clause, []⟩

def append (f g : Filter) : Filter :=
  ⟨f.clause ++ g.clause, f.params ++ g.params⟩

instance : Append Filter :=
  ⟨append⟩

/-- Writes filters one after the other with a text between them. -/
def joined (between : String) (parts : List Filter) : Filter :=
  ⟨between.intercalate (parts.map clause), parts.flatMap params⟩

/-- Replaces the question marks of a text in turn by literals, while there are any. -/
def inlineInto : List Char → List Literal → List Char
  | [], _ => []
  | '?' :: cs, p :: ps => p.quoted.toList ++ inlineInto cs ps
  | c :: cs, ps => c :: inlineInto cs ps

/-- The clause with its parameters written in place, for people to read. -/
def inlineText (f : Filter) : String :=
  String.ofList (inlineInto f.clause.toList f.params)

end Filter

end AuditSearch
