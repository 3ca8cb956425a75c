import AuditSearch.Failure
import AuditSearch.Identity

/-!
What a search asks of others: event ids of a metadata index, and identities of directories. The
calls are kept in a trace, up to and with the one that failed.
-/
namespace AuditSearch

/-- Finds the ids of the events with a value under a key that contains one of some patterns. -/
structure MetadataIndex where
  find : String → List String → Except Failure (List Int64)

/-- Finds the identities with an attribute among some values. -/
structure Directory where
  name : String
  find : Attribute → List String → Except Failure (List Identity)

inductive Call where
  | metadata (key : String) (values : List String)
  | directory (name : String) (attr : Attribute) (values : List String)
  deriving DecidableEq, Repr

/-- A result or failure, with the calls that were made for it in order. -/
structure Traced (α : Type) where
  calls : List Call
  outcome : Except Failure α

namespace Traced
variable {α β : Type}

def pure (a : α) : Traced α :=
  ⟨[], .ok a⟩

def fail (f : Failure) : Traced α :=
  ⟨[], .error f⟩

def bind (x : Traced α) (next : α → Traced β) : Traced β :=
  match x.outcome with
  | .error f => ⟨x.calls, .error f⟩
  | .ok a => ⟨x.calls ++ (next a).calls, (next a).outcome⟩

instance : Monad Traced where
  pure := pure
  bind := bind

def ask (call : Call) (answer : Except Failure α) : Traced α :=
  ⟨[call], answer⟩

end Traced

def MetadataIndex.ask (index : MetadataIndex) (key : String) (values : List String) :
    Traced (List Int64) :=
  .ask (.metadata key values) (index.find key values)

/-- A failure of a directory, which is a failed lookup whatever its cause. -/
def Directory.failure (d : Directory) : Failure → Failure
  | .lookupFailed source message => .lookupFailed source message
  | f => .lookupFailed d.name f.message

def Directory.ask (d : Directory) (attr : Attribute) (values : List String) :
    Traced (List Identity) :=
  .ask (.directory d.name attr values)
    (match d.find attr values with
    | .ok found => .ok found
    | .error f => .error (d.failure f))

end AuditSearch
