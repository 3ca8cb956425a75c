import AuditSearch.Event
import AuditSearch.Failure
import AuditSearch.Identity
import AuditSearch.Sql.Function.Basic

/-!
The event log: recorded events with their metadata, and the local directory of identities.
-/
namespace AuditSearch

structure EventLog where
  /-- The events as they were recorded, with their ids, oldest first. -/
  events : List Event
  /-- The identities in ascending order of their ids. -/
  identities : List Identity
  /-- What the connection to its database has counted. -/
  counts : Sql.Counts
  deriving DecidableEq

/-- Where a log is kept. -/
inductive Medium where
  | memory
  | disk
  deriving DecidableEq, Repr

/-- Where a log cannot be opened. -/
inductive BadPlace where
  | folder
  | belowFile
  | foreignFile
  deriving DecidableEq, Repr

/-- The event as it is read back: its roles are those that its stored text lists. -/
def Event.readBack (e : Event) : Event :=
  { e with actorRoles := Roles.parse e.rolesText }

def Identity.readBack (i : Identity) : Identity :=
  { i with roles := Roles.parse (Roles.join i.roles) }

namespace EventLog

/-- The name under which the log answers lookups. -/
def name : String :=
  "event_store"

/-- The version of the layout of stored logs. -/
def version : Nat :=
  2

def nextId (log : EventLog) : Int64 :=
  Int64.ofNat (log.events.length + 1)

/-- A new log. Its database has counted the rows that tell the version of its layout. -/
def empty : EventLog :=
  ⟨[], [], ⟨version, 1, version⟩⟩

/-- How many values are stored beside the events. -/
def metadataCount (log : EventLog) : Nat :=
  (log.events.flatMap fun e => e.metadata.entries).length

/-- Records an event under the next id, whatever id it brings. Its metadata have ids of their own. -/
def record (log : EventLog) (e : Event) : EventLog :=
  let added := e.metadata.entries.length
  let last := if added = 0 then log.nextId.toInt else log.metadataCount + added
  { log with
    events := log.events ++ [{ e with id := log.nextId }]
    counts := ⟨last, 1, log.counts.allChanges + 1 + added⟩ }

/-- Puts an identity before the first one with a greater id. -/
def place (i : Identity) : List Identity → List Identity
  | [] => [i]
  | k :: ks => if i.id < k.id then i :: k :: ks else k :: place i ks

/-- Adds an identity in place of those that have its id or its login. -/
def enroll (log : EventLog) (i : Identity) : EventLog :=
  { log with
    identities := place i (log.identities.filter fun k => k.id != i.id && k.login != i.login)
    counts := ⟨i.id.toInt, 1, log.counts.allChanges + 1⟩ }

def count (log : EventLog) : Nat :=
  log.events.length

def get? (log : EventLog) (id : Int64) : Option Event :=
  (log.events.find? fun e => e.id == id).map Event.readBack

/-- Closes and opens a log. One in memory is gone then, and one on a disk starts to count anew. -/
def reopen (log : EventLog) : Medium → EventLog
  | .memory => empty
  | .disk => { log with counts := ⟨0, 0, 0⟩ }

def openFailure : BadPlace → Failure
  | .folder => .storage .databaseNotOpened
  | .belowFile => .storage .directoryNotCreated
  | .foreignFile => .storage .databaseNotPrepared

end EventLog

end AuditSearch
