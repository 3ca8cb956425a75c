import AuditSearch.EventLog.Basic
import AuditSearch.Sql.Table

/-!
The tables of an event log as clauses see them: the events and what is stored beside them, and the tables in
which the database keeps its own records.
-/
namespace AuditSearch

namespace ColumnType

/-- What the database compares values of the type as. -/
def affinity : ColumnType → Sql.Affinity
  | integer => .integer
  | text | roleList => .text

def declared : ColumnType → String
  | integer => "INTEGER"
  | text | roleList => "TEXT"

end ColumnType

namespace Column

def required : List Column :=
  [id, siteId, alertCode, createdTimestamp, actorRoles]

/-- What the value of the column is if none is given, as it was declared. -/
def initial? : Column → Option String
  | siteId => some "1"
  | actorRoles => some "''"
  | _ => none

def toTableColumn (c : Column) : Sql.TableColumn :=
  ⟨c.name, some c.type.affinity, required.contains c, c.type.declared, c.initial?⟩

def number (c : Column) : Nat :=
  all.idxOf c

end Column

namespace Sql.Value

def integer64? : Value → Option Int64
  | integer n => Text.toInt64? n
  | _ => none

def content? : Value → Option String
  | text s => some s
  | _ => none

def optional? {α : Type} (read : Value → Option α) : Value → Option (Option α)
  | null => some none
  | v => (read v).map some

end Sql.Value

namespace Event

def row (e : Event) : Sql.Row :=
  Column.all.map fun c => Sql.Value.ofLiteral? (e.value c)

/-- Reads the event of a row, without its metadata. There is none if a value is of another type than its
column, or is null in a column that never is. -/
def ofRow? : Sql.Row → Option Event
  | [id, siteId, alertCode, createdTimestamp, severity, object, eventType, clientIp, userAgent, actorId,
      actorLogin, actorRoles, sessionId] => do
    some
      { id := ← id.integer64?
        siteId := ← siteId.integer64?
        alertCode := ← alertCode.integer64?
        createdTimestamp := ← createdTimestamp.integer64?
        severity := ← severity.optional? Sql.Value.content?
        object := ← object.optional? Sql.Value.content?
        eventType := ← eventType.optional? Sql.Value.content?
        clientIp := ← clientIp.optional? Sql.Value.content?
        userAgent := ← userAgent.optional? Sql.Value.content?
        actorId := ← actorId.optional? Sql.Value.integer64?
        actorLogin := ← actorLogin.optional? Sql.Value.content?
        actorRoles := Roles.parse (← actorRoles.content?)
        sessionId := ← sessionId.optional? Sql.Value.content?
        metadata := .empty }
  | _ => none

end Event

namespace EventLog

open Sql

def integerColumn (name : String) : TableColumn :=
  ⟨name, some .integer, true, "INTEGER", none⟩

def textColumn (name : String) (initial : Option String) : TableColumn :=
  ⟨name, some .text, true, "TEXT", initial⟩

/-- A table that was made for the log. The last index that was made comes first. -/
def madeTable (name : String) (columns : List TableColumn) (rowId : Nat) (indexes : List Index) : Table :=
  ⟨name, .main, [], [], columns, rowId, indexes, []⟩

def eventTable : Table :=
  madeTable "events" (Column.all.map Column.toTableColumn) Column.id.number
    [⟨"idx_events_actor", [(Column.actorId.number, .binary), (Column.actorLogin.number, .binary)], false⟩,
      ⟨"idx_events_created", [(Column.createdTimestamp.number, .binary)], false⟩]

def metadataTable : Table :=
  { madeTable "event_metadata"
      [integerColumn "id", integerColumn "event_id", textColumn "meta_key" none, textColumn "meta_value" none] 0
      [⟨"idx_event_metadata_key", [(2, .binary), (1, .binary)], false⟩] with
    foreignKeys := [⟨"event_id", eventTable.name, Column.id.name, "CASCADE"⟩] }

def identityTable : Table :=
  madeTable "identities"
    (integerColumn "id" :: textColumn "login" none ::
      ["first_name", "last_name", "email", "roles"].map fun name => textColumn name (some "''"))
    0 [⟨"idx_identities_email", [(4, .noCase)], false⟩, ⟨"sqlite_autoindex_identities_1", [(1, .binary)], true⟩]

def versionTable : Table :=
  madeTable "schema_version" [integerColumn "version", textColumn "applied_at" (some "datetime('now')")] 0 []

def sequenceTable : Table :=
  madeTable "sqlite_sequence" [.plain "name" (some .blob), .plain "seq" (some .blob)] 2 []

/-- A table of all tables and indexes of a schema. -/
def schemaTable (schema : Schema) (name : String) (otherNames innerNames : List String) : Table :=
  let text (name : String) : TableColumn := ⟨name, some .text, false, "TEXT", none⟩
  let root : TableColumn := ⟨"rootpage", some .integer, false, "INT", none⟩
  ⟨name, schema, otherNames, innerNames, [text "type", text "name", text "tbl_name", root, text "sql"], 5, [], []⟩

def mainSchemaTable : Table :=
  schemaTable .main "sqlite_master" ["sqlite_schema"] []

/-- The table of the tables that do not last, which has no rows. -/
def temporarySchemaTable : Table :=
  schemaTable .temporary "sqlite_temp_master" ["sqlite_temp_schema"] ["sqlite_master", "sqlite_schema"]

/-- All tables, the last one that was made first. -/
def tables : List Table :=
  [identityTable, metadataTable, eventTable, sequenceTable, versionTable, mainSchemaTable, temporarySchemaTable]

/-- What a log has stored beside its events: ids, the events they belong to, keys and values. -/
def metadataRows (log : EventLog) : List Row :=
  (log.events.flatMap fun e => e.metadata.entries.map fun m => (e.id, m)).zipIdx.map fun ((id, key, value), i) =>
    [.integer (i + 1), .integer id.toInt, .text key, .text value]

def identityRow (i : Identity) : Row :=
  Attribute.all.map (fun a => .ofLiteral (i.value a)) ++ [.text (Roles.join i.roles)]

/-- The moment that stands for the time of each change of the layout. -/
def versionTime : String :=
  "2026-01-01 00:00:00"

def versionRows : List Row :=
  (List.range version).map fun (n : Nat) => [.integer (n + 1), .text versionTime]

/-- The greatest ids that were given in the tables that have rows. -/
def sequenceRows (log : EventLog) : List Row :=
  let counts := [(eventTable.name, log.events.length), (metadataTable.name, log.metadataRows.length)]
  (counts.filter fun c => c.2 != 0).zipIdx.map fun ((name, n), i) =>
    [.text name, .integer n, .integer (i + 1)]

/-- The statement that makes a table, as the database keeps it. -/
def tableText (name : String) (lines : List String) : String :=
  let written := lines.map fun line => "\n                " ++ line
  "CREATE TABLE " ++ name ++ " (" ++ ",".intercalate written ++ "\n            )"

def indexText (name target : String) : String :=
  "CREATE INDEX " ++ name ++ "\n                ON " ++ target

/-- What the tables and indexes were made by: what each is, its name and its table, in the order in which they
were made. The index of a unique column was made with its table. -/
def schemaEntries : List (String × String × String × Option String) :=
  let table (name : String) (lines : List String) := ("table", name, name, some (tableText name lines))
  let index (name table columns : String) :=
    ("index", name, table, some (indexText name (table ++ "(" ++ columns ++ ")")))
  [table versionTable.name
      ["version INTEGER PRIMARY KEY", "applied_at TEXT NOT NULL DEFAULT (datetime('now'))"],
    table eventTable.name
      ["id INTEGER PRIMARY KEY AUTOINCREMENT", "site_id INTEGER NOT NULL DEFAULT 1",
        "alert_code INTEGER NOT NULL", "created_timestamp INTEGER NOT NULL", "severity TEXT", "object TEXT",
        "event_type TEXT", "client_ip TEXT", "user_agent TEXT", "actor_id INTEGER", "actor_login TEXT",
        "actor_roles TEXT NOT NULL DEFAULT ''", "session_id TEXT"],
    ("table", sequenceTable.name, sequenceTable.name, some "CREATE TABLE sqlite_sequence(name,seq)"),
    index "idx_events_created" eventTable.name "created_timestamp",
    table metadataTable.name
      ["id INTEGER PRIMARY KEY AUTOINCREMENT", "event_id INTEGER NOT NULL", "meta_key TEXT NOT NULL",
        "meta_value TEXT NOT NULL", "FOREIGN KEY (event_id) REFERENCES events(id) ON DELETE CASCADE"],
    table identityTable.name
      ["id INTEGER PRIMARY KEY", "login TEXT NOT NULL UNIQUE", "first_name TEXT NOT NULL DEFAULT ''",
        "last_name TEXT NOT NULL DEFAULT ''", "email TEXT NOT NULL DEFAULT ''",
        "roles TEXT NOT NULL DEFAULT ''"],
    ("index", "sqlite_autoindex_identities_1", identityTable.name, none),
    index "idx_event_metadata_key" metadataTable.name "meta_key, event_id",
    index "idx_events_actor" eventTable.name "actor_id, actor_login",
    index "idx_identities_email" identityTable.name "email COLLATE NOCASE"]

/-- The table of all tables and indexes keeps the first page itself; each of them starts on the next one. -/
def schemaRows : List Row :=
  schemaEntries.zipIdx.map fun ((kind, name, table, statement), i) =>
    [.text kind, .text name, .text table, .integer (i + 2), (statement.map Value.text).getD .null,
      .integer (i + 1)]

def relations (log : EventLog) : List Relation :=
  [⟨identityTable, log.identities.map identityRow⟩, ⟨metadataTable, log.metadataRows⟩,
    ⟨eventTable, log.events.map Event.row⟩, ⟨sequenceTable, log.sequenceRows⟩, ⟨versionTable, versionRows⟩,
    ⟨mainSchemaTable, schemaRows⟩, ⟨temporarySchemaTable, []⟩]

end EventLog

end AuditSearch
