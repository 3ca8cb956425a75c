import AuditSearch.Event
import AuditSearch.Filter
import AuditSearch.Identity
import AuditSearch.Json.Codec
import AuditSearch.Settings.Basic

/-!
The documents of events, identities, filters and settings.
-/
namespace AuditSearch
open Json

instance : Codec Literal where
  encode
    | .integer n => encode n
    | .text s => encode s
  decode?
    | .integer n => (decode? (.integer n)).map .integer
    | .text s => s.map .text
    | _ => none

def ColumnType.name : ColumnType → String
  | integer => "integer"
  | text => "text"
  | roleList => "role_list"

def named {α : Type} (name : α → String) (cases : List α) : List (String × α) :=
  cases.map fun a => (name a, a)

instance : Codec ColumnType where
  encode t := encode t.name
  decode? := choice? (named ColumnType.name [.integer, .text, .roleList])

instance : Codec Attribute where
  encode a := encode a.name
  decode? := choice? (named Attribute.name Attribute.all)

instance : Codec Treatment where
  encode t := encode t.name
  decode? := choice? (named Treatment.name [.skip, .fail])

instance : Codec Policy where
  encode p := object
    [member "unknownFields" (encode p.unknownFields), member "invalidValues" (encode p.invalidValues)]
  decode? j := do
    match ← record? ["unknownFields", "invalidValues"] 0 j with
    | [unknownFields, invalidValues] =>
      some ⟨← required? unknownFields, ← required? invalidValues⟩
    | _ => none

instance : Codec Filter where
  encode f := object [member "clause" (encode f.clause), member "params" (encode f.params)]
  decode? j := do
    match ← record? ["clause", "params"] 0 j with
    | [clause, params] => some ⟨← required? clause, ← required? params⟩
    | _ => none

instance : Codec Identity where
  encode i := object
    [member "id" (encode i.id), member "login" (encode i.login),
      member "first_name" (encode i.firstName), member "last_name" (encode i.lastName),
      member "email" (encode i.email), member "roles" (encode i.roles)]
  decode? j := do
    match ← record? ["id", "login", "first_name", "last_name", "email", "roles"] 0 j with
    | [id, login, firstName, lastName, email, roles] =>
      some ⟨← required? id, ← required? login, ← required? firstName, ← required? lastName,
        ← required? email, ← required? roles⟩
    | _ => none

namespace Event

def memberNames : List String :=
  ["id", "site_id", "alert_code", "created_timestamp", "severity", "object", "event_type",
    "client_ip", "user_agent", "actor_id", "actor_login", "actor_roles", "session_id", "metadata"]

def memberValues (e : Event) : List Json :=
  [encode e.id, encode e.siteId, encode e.alertCode, encode e.createdTimestamp, encode e.severity,
    encode e.object, encode e.eventType, encode e.clientIp, encode e.userAgent, encode e.actorId,
    encode e.actorLogin, encode e.actorRoles, encode e.sessionId, encode e.metadata]

end Event

instance : Codec Event where
  encode e := object (List.zipWith member Event.memberNames e.memberValues)
  decode? j := do
    match ← record? Event.memberNames 1 j with
    | [id, siteId, alertCode, createdTimestamp, severity, target, eventType, clientIp, userAgent,
        actorId, actorLogin, actorRoles, sessionId, metadata] =>
      some
        { id := ← required? id
          siteId := ← required? siteId
          alertCode := ← required? alertCode
          createdTimestamp := ← required? createdTimestamp
          severity := ← optional? severity
          object := ← optional? target
          eventType := ← optional? eventType
          clientIp := ← optional? clientIp
          userAgent := ← optional? userAgent
          actorId := ← optional? actorId
          actorLogin := ← optional? actorLogin
          actorRoles := ← required? actorRoles
          sessionId := ← optional? sessionId
          metadata := ← defaulted? .empty metadata }
    | _ => none

/-- A member that is left out if it has no value. -/
def setMember {α : Type} [Codec α] (key : String) (value : Option α) :
    List (Option String × Json) :=
  (value.map fun a => member key (encode a)).toList

instance : Codec Settings where
  encode s := object
    ([member "version" (encode s.version)] ++ setMember "utcOffsetMinutes" s.offsetMinutes ++
      setMember "unknownFields" s.unknownFields ++ setMember "invalidValues" s.invalidValues ++
      setMember "federatedIdentities" s.federated)
  decode? j := do
    match ← record? ["version", "utcOffsetMinutes", "unknownFields", "invalidValues",
        "federatedIdentities"] 0 j with
    | [version, offsetMinutes, unknownFields, invalidValues, federated] =>
      some
        { version := ← defaulted? Settings.new.version version
          offsetMinutes := ← optional? offsetMinutes
          unknownFields := ← optional? unknownFields
          invalidValues := ← optional? invalidValues
          federated := ← optional? federated }
    | _ => none

end AuditSearch
