import AuditSearch.EventLog.Query
import AuditSearch.Filter
import AuditSearch.Lookup
import AuditSearch.Sql.Total

/-!
Searches of an event log: events by a filter, event ids by metadata, and identities by an attribute.
-/
namespace AuditSearch

namespace Event

/-- Whether an event comes first in an answer: later ones do, and of one instant those with the
greater id. -/
def precedes (a b : Event) : Bool :=
  decide (b.createdTimestamp < a.createdTimestamp) ||
    (a.createdTimestamp == b.createdTimestamp && decide (b.id < a.id))

/-- Puts an event at its place in an answer, where `first` says which of two comes first. -/
def place (first : Event → Event → Bool) (e : Event) : List Event → List Event
  | [] => [e]
  | f :: fs => if first f e then f :: place first e fs else e :: f :: fs

/-- Events in order. Those of which none comes first stay as they are. -/
def arrange (first : Event → Event → Bool) (events : List Event) : List Event :=
  events.foldr (place first) []

def newestFirst (events : List Event) : List Event :=
  arrange precedes events

end Event

namespace EventLog

/-- What a clause with these parameters is evaluated with. -/
def session (log : EventLog) (params : List Literal) : Sql.Session :=
  ⟨params.map Sql.Value.ofLiteral, log.counts, log.relations⟩

/-- Whether a condition without queries is true of an event. -/
def meets (log : EventLog) (params : List Literal) (condition : Sql.Expr) (e : Event) : Bool :=
  condition.holds (log.session params) (fun _ _ => []) [.ofRows [e.row]] == some true

/-- The event of a row of an answer, with the metadata that is stored for its id. -/
def eventOfRow? (log : EventLog) (row : Sql.Row) : Option Event :=
  (Event.ofRow? row).map fun e =>
    { e with metadata := ((log.events.find? fun f => f.id == e.id).map Event.metadata).getD .empty }

/-- The answer to a query. A condition that has an answer on every event selects those on which it is true;
for any other query the rows are found in the order in which the database finds them, and there is no answer
if it gives up. -/
def answer? (log : EventLog) (query : EventQuery) (params : List Literal) : Option (List Event) :=
  match query.condition?.filter (Sql.Expr.isTotal (log.session params).params) with
  | some condition =>
    some ((Event.newestFirst (log.events.filter (log.meets params condition))).map Event.readBack)
  | none =>
    ((query.statement.answer (log.session params)).all?).bind fun rows => rows.mapM log.eventOfRow?

def find (log : EventLog) (f : Filter) : Except Failure (List Event) :=
  match EventQuery.prepare? f.clause with
  | none => .error (.storage .queryNotPrepared)
  | some query =>
    if query.params = f.params.length then
      match log.answer? query f.params with
      | none => .error (.storage .rowNotRead)
      | some events => .ok events
    else .error (.storage .queryNotRun)

def refused (text : String) : Failure :=
  .lookupFailed name (Failure.database text).message

/-- A metadata lookup takes this many patterns at most: the expression tree of its clause is three
higher than their number. -/
def maxPatterns : Nat :=
  Sql.maxHeight - 3

/-- The pattern that finds a text anywhere, with a wildcard at both ends. -/
def containing (part : String) : String :=
  String.ofList ('%' :: Text.escapeWildcards part.toList ++ ['%'])

/-- Whether a text is like one of some patterns. They are tried in turn, and there is no answer if one that
is tried is too long. -/
def isLikeAny? (text : String) : List String → Option Bool
  | [] => some false
  | p :: ps =>
    if Sql.Value.maxPatternBytes < p.utf8ByteSize then none
    else if Text.isLike (some Text.wildcardEscape) (Text.readable p) (Text.readable text) then some true
    else isLikeAny? text ps

/-- Whether the value of an event under a key is in lower case like one of some patterns. -/
def hasMetadata? (key : String) (patterns : List String) (e : Event) : Option Bool :=
  match e.metadata.get? key with
  | some value => isLikeAny? (Text.lower value) patterns
  | none => some false

/-- The ids of the events with a value under a key that contains one of some texts, without regard to letter
case, in ascending order. -/
def findIds (log : EventLog) (key : String) (patterns : List String) :
    Except Failure (List Int64) :=
  if maxPatterns < patterns.length then
    .error (refused "Expression tree is too large (maximum depth 1000)")
  else
    match log.events.filterM (hasMetadata? key (patterns.map fun p => containing (Text.lower p))) with
    | none => .error (refused "LIKE or GLOB pattern too complex")
    | some events => .ok (IdSet.ofList (events.map (·.id))).toList

/-- The identities that pass a test, in ascending order of their ids. A lookup takes a limited number
of values. -/
def select (log : EventLog) (values : Nat) (test : Identity → Bool) :
    Except Failure (List Identity) :=
  if Sql.ParamNames.maxCount < values then .error (refused "too many SQL variables")
  else .ok ((log.identities.filter test).map Identity.readBack)

def attributeText (a : Attribute) (i : Identity) : String :=
  match i.value a with
  | .text s => s
  | .integer _ => ""

/-- The identities with an attribute among some values. Ids are compared as integers, where values
that are none do not count, and texts without regard to letter case. -/
def findIdentities (log : EventLog) (attr : Attribute) (values : List String) :
    Except Failure (List Identity) :=
  match attr with
  | .id =>
    let ids := values.filterMap Literal.integerOf?
    log.select ids.length fun i => decide (i.id ∈ ids)
  | attr =>
    let wanted := values.map Text.lower
    log.select wanted.length fun i => decide (Text.lower (attributeText attr i) ∈ wanted)

def index (log : EventLog) : MetadataIndex :=
  ⟨log.findIds⟩

def directory (log : EventLog) : Directory :=
  ⟨name, log.findIdentities⟩

end EventLog

end AuditSearch
