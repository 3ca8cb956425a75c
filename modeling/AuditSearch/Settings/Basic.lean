import AuditSearch.Failure
import AuditSearch.Settings.Policy

/-!
Settings of a search. Each may be left open; layers of settings are merged, and the last layer that
sets something wins.
-/
namespace AuditSearch

structure Settings where
  version : UInt32
  /-- Minutes by which local time is ahead of UTC. -/
  offsetMinutes : Option Int32
  unknownFields : Option Treatment
  invalidValues : Option Treatment
  /-- Whether the federated directory is asked. -/
  federated : Option Bool
  deriving DecidableEq, Repr

namespace Settings

def new : Settings :=
  ⟨1, none, none, none, none⟩

/-- The settings of `s`, replaced by those that `layer` sets. The version stays. -/
def merge (s layer : Settings) : Settings :=
  { s with
    offsetMinutes := layer.offsetMinutes.or s.offsetMinutes
    unknownFields := layer.unknownFields.or s.unknownFields
    invalidValues := layer.invalidValues.or s.invalidValues
    federated := layer.federated.or s.federated }

/-- The largest offset in minutes, eighteen hours. -/
def maxOffsetMinutes : Nat :=
  1080

/-- Seconds by which local time is ahead of UTC, if the offset is in range. -/
def offsetSeconds (s : Settings) : Except Failure Int :=
  let minutes := (s.offsetMinutes.getD 0).toInt
  if minutes.natAbs ≤ maxOffsetMinutes then .ok (minutes * 60)
  else .error (.configuration (.offsetOutOfRange minutes))

def policy (s : Settings) : Policy :=
  ⟨s.unknownFields.getD Policy.legacy.unknownFields, s.invalidValues.getD Policy.legacy.invalidValues⟩

def isFederated (s : Settings) : Bool :=
  s.federated.getD true

def withPolicy (s : Settings) (p : Policy) : Settings :=
  { s with unknownFields := some p.unknownFields, invalidValues := some p.invalidValues }

end Settings

end AuditSearch
