import AuditSearch.Catalog
import AuditSearch.Search.Actor
import AuditSearch.Search.Column
import AuditSearch.Search.Day
import AuditSearch.Search.Metadata
import AuditSearch.Settings.Basic

/-!
Compilation of a search string into a condition. The groups of its terms are resolved in order, each
by the kind of its field, and the first failure ends the compilation.
-/
namespace AuditSearch

/-- What compilation of a search depends on. -/
structure Compiler where
  catalog : Catalog
  index : MetadataIndex
  directory : Directory
  federated : Option Directory
  /-- Whether the federated directory is asked. -/
  federates : Bool
  offsetSeconds : Int
  policy : Policy

/-- A compiled search: a string without any colon is no search syntax and is handed back. -/
inductive Compiled where
  | passThrough (raw : String)
  | condition (c : Condition)

/-- What one group adds to a search. -/
inductive Contribution where
  | nothing
  | condition (c : Condition)
  | ids (sets : IdSets)

namespace Contribution

def condition? : Contribution → Option Condition
  | condition c => some c
  | _ => none

def ids? : Contribution → Option IdSets
  | ids sets => some sets
  | _ => none

/-- All conditions in order, and after them the test of the united id sets. -/
def assemble (parts : List Contribution) : Condition :=
  let sets := (parts.filterMap ids?).foldl IdSets.merge IdSets.empty
  Condition.mkAll (parts.filterMap condition? ++ [sets.toCondition])

end Contribution

namespace Compiler

/-- A compiler without federated directory, under the settings that leave everything open. -/
def new (catalog : Catalog) (index : MetadataIndex) (directory : Directory) : Compiler :=
  ⟨catalog, index, directory, none, Settings.new.isFederated, 0, Settings.new.policy⟩

def withFederated (c : Compiler) (d : Directory) : Compiler :=
  { c with federated := some d }

/-- Applies settings, unless their offset is out of range. -/
def withSettings (c : Compiler) (s : Settings) : Except Failure Compiler := do
  let offset ← s.offsetSeconds
  pure { c with offsetSeconds := offset, policy := s.policy, federates := s.isFederated }

def withPolicy (c : Compiler) (p : Policy) : Compiler :=
  { c with policy := p }

/-- The directories to ask, the own one first. -/
def directories (c : Compiler) : List Directory :=
  c.directory :: if c.federates then c.federated.toList else []

/-- A group of days, where the policy decides about an invalid date. -/
def resolveDay (c : Compiler) (g : Group) (column : String) (bound : DayBound) :
    Traced Contribution :=
  match g.dayCondition column bound c.offsetSeconds with
  | .ok condition => .pure (.condition condition)
  | .error f =>
    match c.policy.invalidValues with
    | .skip => .pure .nothing
    | .fail => .fail f

/-- Resolves one group by the field that its name stands for. -/
def resolve (c : Compiler) (g : Group) : Traced Contribution :=
  match c.catalog.get? g.field with
  | none =>
    match c.policy.unknownFields with
    | .skip => .pure .nothing
    | .fail => .fail (.unknownField g.field)
  | some field =>
    match field.resolution with
    | .column column type => .pure (.condition (g.columnCondition column type))
    | .metadata key => return .ids (← g.metadataIds c.index key)
    | .identity attr projections =>
      return .condition (← g.identityCondition c.directories attr projections)
    | .role column => .pure (.condition (g.roleCondition column))
    | .day column bound => c.resolveDay g column bound

def conditionOfGroups (c : Compiler) (groups : List Group) : Traced Condition := do
  let parts ← groups.mapM c.resolve
  pure (Contribution.assemble parts)

/-- The condition of a search string; one without terms always holds. -/
def condition (c : Compiler) (raw : String) : Traced Condition :=
  c.conditionOfGroups (Group.ofTerms (Term.ofSearch raw))

def compile (c : Compiler) (raw : String) : Traced Compiled :=
  if raw.toList.contains ':' then do
    let condition ← c.condition raw
    pure (.condition condition)
  else .pure (.passThrough raw)

end Compiler

end AuditSearch
