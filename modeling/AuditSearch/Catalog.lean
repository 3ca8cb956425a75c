import AuditSearch.Failure
import AuditSearch.Field

/-!
Catalogs of search fields. Every name, other names included, stands for one field.
-/
namespace AuditSearch

/-- The fields that a search may use, by name. A second name of a field leads to the same field. -/
abbrev Catalog :=
  Dictionary Field

namespace Catalog

def duplicate (name : String) : Failure :=
  .configuration (.duplicateField name)

def addField (c : Catalog) (f : Field) : Except Failure Catalog :=
  if (c.get? f.name).isSome then .error (duplicate f.name) else .ok (c.insert f.name f)

def addName (c : Catalog) (name target : String) : Except Failure Catalog :=
  match c.get? target with
  | none => .error (.configuration (.unknownTarget name target))
  | some f => if (c.get? name).isSome then .error (duplicate name) else .ok (c.insert name f)

/-- The catalog of some fields, then of further names for them, each a pair of name and target. -/
def build (fields : List Field) (names : List (String × String)) : Except Failure Catalog := do
  let c ← fields.foldlM addField Dictionary.empty
  names.foldlM (fun c n => addName c n.1 n.2) c

/-- All names, in ascending order. -/
def names (c : Catalog) : List String :=
  c.entries.map (·.1)

def metadataFields : List Field :=
  [⟨"post_title", .metadata "PostTitle"⟩, ⟨"post_status", .metadata "PostStatus"⟩,
    ⟨"post_type", .metadata "PostType"⟩, ⟨"post_id", .metadata "PostID"⟩]

/-- Where the person behind an event stands in the event. -/
def actorProjections : List Projection :=
  [⟨Column.actorId.name, .id⟩, ⟨Column.actorLogin.name, .login⟩]

def identityFields : List Field :=
  [⟨"user_id", .identity .id actorProjections⟩, ⟨"user_email", .identity .email actorProjections⟩,
    ⟨"user_first_name", .identity .firstName actorProjections⟩,
    ⟨"user_last_name", .identity .lastName actorProjections⟩,
    ⟨"user_role", .role Column.actorRoles.name⟩]

def dayFields : List Field :=
  [⟨"start_date", .day Column.createdTimestamp.name .start⟩,
    ⟨"end_date", .day Column.createdTimestamp.name .finish⟩]

def furtherNames : List (String × String) :=
  [("post_name", "post_title")]

/-- The catalog of the given columns and of the fields that are always there. -/
def ofColumns (columns : List (String × ColumnType)) : Except Failure Catalog :=
  build (columns.map (fun c => Field.ofColumn c.1 c.2) ++ metadataFields ++ identityFields ++ dayFields)
    furtherNames

/-- The catalog over the columns of the event table. -/
def standard : Except Failure Catalog :=
  ofColumns (Column.all.map fun c => (c.name, c.type))

end Catalog

end AuditSearch
