import AuditSearch.Text.Numeral

/-!
Failures of a search, of the settings and of the event log, each with its cause and its message.
-/
namespace AuditSearch

/-- What is wrong with a catalog of fields or with the settings. -/
inductive ConfigurationFault where
  | duplicateField (name : String)
  | unknownTarget (name target : String)
  | offsetOutOfRange (minutes : Int)
  | described (text : String)
  deriving DecidableEq, Repr

/-- What an event log could not do. -/
inductive StorageFault where
  | directoryNotCreated
  | databaseNotOpened
  | databaseNotPrepared
  | queryNotPrepared
  | queryNotRun
  | rowNotRead
  | described (text : String)
  deriving DecidableEq, Repr

inductive Failure where
  | invalidDate (field value : String)
  | unknownField (name : String)
  /-- A collaborator named `source` did not answer. -/
  | lookupFailed (source message : String)
  | configuration (fault : ConfigurationFault)
  | storage (fault : StorageFault)
  | io (text : String)
  | json (text : String)
  | database (text : String)
  | internal (text : String)
  deriving DecidableEq, Repr

def ConfigurationFault.message : ConfigurationFault → String
  | duplicateField name => "Duplicate search field: " ++ name
  | unknownTarget name target => "Alias " ++ name ++ " targets unknown field " ++ target
  | offsetOutOfRange minutes => "utcOffsetMinutes out of range: " ++ Text.ofInt minutes
  | described text => text

def StorageFault.message : StorageFault → String
  | directoryNotCreated => "Failed to create data directory"
  | databaseNotOpened => "Failed to open database"
  | databaseNotPrepared => "Failed to set pragmas"
  | queryNotPrepared => "Failed to prepare query"
  | queryNotRun => "Failed to query events"
  | rowNotRead => "Failed to read event row"
  | described text => text

namespace Failure

def message : Failure → String
  | invalidDate field value =>
    "Invalid date for " ++ field ++ ": '" ++ value ++ "' (expected YYYY-MM-DD)"
  | unknownField name => "Unknown search field: " ++ name
  | lookupFailed source message => "Lookup failed: " ++ source ++ " - " ++ message
  | configuration fault => "Configuration error: " ++ fault.message
  | storage fault => "Storage error: " ++ fault.message
  | io text => "IO error: " ++ text
  | json text => "JSON error: " ++ text
  | database text => "SQLite error: " ++ text
  | internal text => "Internal error: " ++ text

/-- A collaborator was out of reach, so the same search may succeed later. -/
def isRetryable : Failure → Bool
  | lookupFailed _ _ => true
  | _ => false

/-- The search string itself is at fault. -/
def isUserFacing : Failure → Bool
  | invalidDate _ _ | unknownField _ => true
  | _ => false

end Failure

end AuditSearch
