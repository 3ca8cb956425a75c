import AuditSearch.Sql.Document.Outline
import AuditSearch.Sql.Function.Report

/-!
Functions that make rows, which stand where tables may stand. What they are called with are values of columns that
are not shown.
-/
namespace AuditSearch.Sql

inductive RowFunction where
  /-- What there is in a document, with what is in its parts if `deep`. -/
  | outline (deep : Bool)
  | report (r : Report)
  deriving DecidableEq

namespace RowFunction

def named? : String → Option RowFunction
  | "json_each" => some (.outline false)
  | "json_tree" => some (.outline true)
  | name => (Report.named? name).map report

def name : RowFunction → String
  | outline false => "json_each"
  | outline true => "json_tree"
  | report r => r.name

def shown : RowFunction → List String
  | outline _ => ["key", "value", "type", "atom", "id", "parent", "fullkey", "path"]
  | report r => r.shown

/-- The names of the columns for what the function is called with. -/
def parameters : RowFunction → List String
  | outline _ => ["json", "root"]
  | report r => r.parameters

def columns (f : RowFunction) : List TableColumn :=
  f.shown.map (fun name => .plain name (some .blob)) ++ f.parameters.map fun name => .plain name (some .numeric)

def table (f : RowFunction) : Table :=
  ⟨f.name, .main, [], [], f.columns, f.columns.length, [], []⟩

def nodeRow (written root : Value) (n : Document.Node) (number : Nat) : Option Row := do
  let value ← Value.ofDocumentValue? false n.content
  let atom := match n.content with | .array _ | .object _ => .null | _ => value
  some [n.key, value, .text n.content.kind, atom, .integer n.id, (n.parent.map fun p => .integer p).getD .null,
    .ofCodes n.fullKey, .ofCodes n.path, written, root, .integer number]

/-- The rows of what there is in a document, or in that part of it that a path leads to. -/
def outlineRows? (deep : Bool) (v : Value) (path : Option Value) : Option (List Row) :=
  match v.document?, path.map Value.path? with
  | none, _ => none
  | some none, _ | _, some none => some []
  | some (some d), path =>
    let path := path.join.getD ['$']
    let written := match v, v.documentPart? with | .blob bytes, some _ => .blob bytes | v, _ => .ofCodes (v.path?.getD [])
    match Document.outline deep path d with
    | .ok found => found.zipIdx.mapM fun (n, i) => nodeRow written (.ofCodes path) n i
    | .error .missing => some []
    | .error .malformed => none

/-- A table by its name, also one that a function stands for, and how many of its columns are shown. -/
def tableOf? (known : List Table) : Report.Finder := fun schema name =>
  match known.find? fun t => t.isCalled schema name, named? name with
  | some t, _ => some (t, t.columns.length)
  | none, f => f.map fun f => (f.table, f.shown.length)

/-- The rows that the function makes where there are some tables, with their numbers at last. There are none without
an answer if the database gives up. -/
def rows? (known : List Table) (f : RowFunction) (args : List Value) : Option (List Row) :=
  match f, args with
  | outline deep, [v] => outlineRows? deep v none
  | outline deep, [v, path] => outlineRows? deep v (some path)
  | outline _, _ => some []
  | report r, args => r.rows? known (tableOf? known) args

end RowFunction

end AuditSearch.Sql
