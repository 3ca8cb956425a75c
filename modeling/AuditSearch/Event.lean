import AuditSearch.Ascending
import AuditSearch.Literal
import AuditSearch.Roles

/-!
Audit events: the columns of the event table, the recorded event, and the value of each column.
-/
namespace AuditSearch

/-- What a column stores. A role list is a text of comma-joined role names and is never null. -/
inductive ColumnType where
  | integer
  | text
  | roleList
  deriving DecidableEq, Repr

/-- The columns of the event table. -/
inductive Column where
  | id
  | siteId
  | alertCode
  | createdTimestamp
  | severity
  | object
  | eventType
  | clientIp
  | userAgent
  | actorId
  | actorLogin
  | actorRoles
  | sessionId
  deriving DecidableEq, Repr

namespace Column

/-- All columns, in table order. -/
def all : List Column :=
  [id, siteId, alertCode, createdTimestamp, severity, object, eventType, clientIp, userAgent,
    actorId, actorLogin, actorRoles, sessionId]

def name : Column → String
  | id => "id"
  | siteId => "site_id"
  | alertCode => "alert_code"
  | createdTimestamp => "created_timestamp"
  | severity => "severity"
  | object => "object"
  | eventType => "event_type"
  | clientIp => "client_ip"
  | userAgent => "user_agent"
  | actorId => "actor_id"
  | actorLogin => "actor_login"
  | actorRoles => "actor_roles"
  | sessionId => "session_id"

def type : Column → ColumnType
  | id | siteId | alertCode | createdTimestamp | actorId => .integer
  | actorRoles => .roleList
  | _ => .text

def named? (name : String) : Option Column :=
  all.find? fun c => c.name == name

end Column

/-- One audited action. -/
structure Event where
  /-- Given by the log when the event is recorded. -/
  id : Int64
  siteId : Int64
  alertCode : Int64
  /-- Seconds since the start of 1970, UTC. -/
  createdTimestamp : Int64
  severity : Option String
  object : Option String
  eventType : Option String
  clientIp : Option String
  userAgent : Option String
  actorId : Option Int64
  actorLogin : Option String
  actorRoles : List String
  sessionId : Option String
  /-- Keyed texts kept beside the event table. -/
  metadata : Dictionary String
  deriving DecidableEq

namespace Event

def rolesText (e : Event) : String :=
  Roles.join e.actorRoles

def value (e : Event) : Column → Option Literal
  | .id => some (.integer e.id)
  | .siteId => some (.integer e.siteId)
  | .alertCode => some (.integer e.alertCode)
  | .createdTimestamp => some (.integer e.createdTimestamp)
  | .severity => e.severity.map .text
  | .object => e.object.map .text
  | .eventType => e.eventType.map .text
  | .clientIp => e.clientIp.map .text
  | .userAgent => e.userAgent.map .text
  | .actorId => e.actorId.map .integer
  | .actorLogin => e.actorLogin.map .text
  | .actorRoles => some (.text e.rolesText)
  | .sessionId => e.sessionId.map .text

/-- The value of the column of this name, `none` if it is null or there is no such column. -/
def column? (e : Event) (name : String) : Option Literal :=
  (Column.named? name).bind e.value

end Event

end AuditSearch
