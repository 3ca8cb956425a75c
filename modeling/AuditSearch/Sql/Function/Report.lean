import AuditSearch.Sql.Function.Basic
import AuditSearch.Sql.Table

/-!
What a database tells about itself: its settings, and its tables with their columns and indexes. A report may be
about one table or index, by its name, and one schema.
-/
namespace AuditSearch.Sql

inductive Report where
  /-- The value of a setting, and its value for tables that do not last if each schema has one of its own. -/
  | setting (column : String) (own : Value) (temporary : Option Value)
  | pageCount
  | changeCount
  /-- The columns of a table, with those that are not shown if `all`. -/
  | columns (all : Bool)
  | indexes
  /-- The columns of an index, with that of the row ids if `all`. -/
  | indexColumns (all : Bool)
  | foreignKeys
  /-- Rows whose foreign keys have no partner. -/
  | strayKeys
  | tables
  | schemas
  | collations
  | options
  | routines
  | reports
  | modules
  /-- Whether what is stored is sound. -/
  | check (column : String)
  /-- What was done to answer faster. -/
  | optimized
  deriving DecidableEq

namespace Report

/-- The reports on settings, which are numbers, by their names. Most columns have the name of the report. -/
def numbers : List (String × Report) :=
  let one (name : String) (n : Int) : String × Report := (name, setting name (.integer n) none)
  let each (name : String) (n temporary : Int) : String × Report :=
    (name, setting name (.integer n) (some (.integer temporary)))
  [one "analysis_limit" 0, one "application_id" 0, each "auto_vacuum" 0 0, one "automatic_index" 1,
    ("busy_timeout", setting "timeout" (.integer 5000) none), each "cache_size" (-2000) 0,
    each "cache_spill" 483 483, one "cell_size_check" 0, one "checkpoint_fullfsync" 0, one "count_changes" 0,
    one "data_version" 1,
    ("default_cache_size", setting "cache_size" (.integer (-2000)) (some (.integer (-2000)))),
    one "defer_foreign_keys" 0, one "empty_result_callbacks" 0, one "foreign_keys" 1, one "freelist_count" 0,
    one "full_column_names" 0, one "fullfsync" 0, one "hard_heap_limit" 0, one "ignore_check_constraints" 0,
    each "journal_size_limit" (-1) (-1), one "legacy_alter_table" 0, each "max_page_count" 4294967294 4294967294,
    each "page_size" 4096 4096, one "query_only" 0, one "read_uncommitted" 0, one "recursive_triggers" 0,
    one "reverse_unordered_selects" 0, one "secure_delete" 0, one "short_column_names" 1,
    one "soft_heap_limit" 0, each "synchronous" 2 0, one "temp_store" 0, one "threads" 0,
    one "trusted_schema" 1, one "user_version" 0, one "writable_schema" 0]

def table : List (String × Report) :=
  numbers ++
    [("collation_list", collations), ("compile_options", options), ("database_list", schemas),
      ("encoding", setting "encoding" (.text "UTF-8") none), ("foreign_key_check", strayKeys),
      ("foreign_key_list", foreignKeys), ("function_list", routines), ("index_info", indexColumns false),
      ("index_list", indexes), ("index_xinfo", indexColumns true), ("integrity_check", check "integrity_check"),
      ("journal_mode", setting "journal_mode" (.text "memory") (some (.text "delete"))),
      ("locking_mode", setting "locking_mode" (.text "normal") (some (.text "exclusive"))),
      ("module_list", modules),
      ("optimize", optimized), ("page_count", pageCount), ("pragma_list", reports),
      ("quick_check", check "quick_check"), ("schema_version", changeCount), ("table_info", columns false),
      ("table_list", tables), ("table_xinfo", columns true)]

/-- Names that there are no reports for, although the database knows them. -/
def silentNames : List String :=
  ["case_sensitive_like", "incremental_vacuum", "mmap_size", "shrink_memory",
    "temp_store_directory", "wal_autocheckpoint", "wal_checkpoint"]

def moduleNames : List String :=
  ["pragma_module_list", "json_tree", "json_each", "fts3", "fts4", "fts3tokenize", "fts5vocab", "fts5", "rtree",
    "rtree_i32", "fts4aux", "dbstat"]

/-- What is in front of the name of a report where it stands for a table. -/
def start : List Char :=
  "pragma_".toList

def named? (name : String) : Option Report :=
  if start.isPrefixOf name.toList then table.lookup (String.ofList (name.toList.drop start.length)) else none

def name (r : Report) : String :=
  String.ofList start ++ ((table.find? fun entry => entry.2 == r).map (·.1)).getD ""

def shown : Report → List String
  | setting column _ _ | check column => [column]
  | pageCount => ["page_count"]
  | changeCount => ["schema_version"]
  | columns all => ["cid", "name", "type", "notnull", "dflt_value", "pk"] ++ if all then ["hidden"] else []
  | indexes => ["seq", "name", "unique", "origin", "partial"]
  | indexColumns all => ["seqno", "cid", "name"] ++ if all then ["desc", "coll", "key"] else []
  | foreignKeys => ["id", "seq", "table", "from", "to", "on_update", "on_delete", "match"]
  | strayKeys => ["table", "rowid", "parent", "fkid"]
  | tables => ["schema", "name", "type", "ncol", "wr", "strict"]
  | schemas => ["seq", "name", "file"]
  | collations => ["seq", "name"]
  | options => ["compile_options"]
  | routines => ["name", "builtin", "type", "enc", "narg", "flags"]
  | reports | modules => ["name"]
  | optimized => ["optimize"]

def isAboutOne : Report → Bool
  | columns _ | indexes | indexColumns _ | foreignKeys | strayKeys | tables | check _ | optimized => true
  | _ => false

def isAboutSchema : Report → Bool
  | setting _ _ temporary => temporary.isSome
  | pageCount | columns _ | indexes | indexColumns _ | foreignKeys | strayKeys | check _ => true
  | _ => false

def parameters (r : Report) : List String :=
  (if r.isAboutOne then ["arg"] else []) ++ if r.isAboutSchema then ["schema"] else []

/-- Whether a name is one that the database gave itself. -/
def isInternal (name : String) : Bool :=
  BuildOption.start.isPrefixOf name.toList

def number (n : Nat) : Value :=
  .integer n

def nameValue (name : Option String) : Value :=
  (name.map Value.text).getD .null

def columnRow (t : Table) (shown : Nat) (all : Bool) (i : Nat) (c : TableColumn) : Row :=
  let isRowId := i == t.rowId
  [number i, .text c.name, .text c.type, number (c.required && !isRowId).toNat, nameValue c.initial,
    number isRowId.toNat] ++ if all then [number (decide (shown ≤ i)).toNat] else []

def indexRow (i : Nat) (index : Index) : Row :=
  [number i, .text index.name, number index.unique.toNat, .text (if isInternal index.name then "u" else "c"),
    number 0]

def collationName : Collation → String
  | .binary => "BINARY"
  | .noCase => "NOCASE"
  | .rightTrimmed => "RTRIM"

def indexColumnRows (t : Table) (index : Index) (all : Bool) : List Row :=
  let known := index.columns.zipIdx.map fun ((c, collation), i) =>
    [number i, number c, .text (t.columnAt c).name] ++
      if all then [number 0, .text (collationName collation), number 1] else []
  if all then
    known ++ [[number known.length, .integer (-1), .null, number 0, .text (collationName .binary), number 0]]
  else known

/-- The row of a table as its schema counts it. A table of tables goes by its other name. -/
def tableRow (t : Table) : Row :=
  [.text t.schema.name, .text (t.otherNames.headD t.name), .text "table", number t.columns.length, number 0, number 0]

/-- The pages of the tables of a schema, each of which has one, as each of its indexes. -/
def pagesOf (known : List Table) (schema : Schema) : Nat :=
  if schema == .main then ((known.filter fun t => t.schema == schema).map fun t => 1 + t.indexes.length).foldl (· + ·) 0 else 0

/-- The changes that made the tables and indexes which are not the own ones of the database. -/
def changesOf (known : List Table) : Nat :=
  let made := known.filter fun t => !isInternal t.name
  (made.map fun t => 1 + (t.indexes.filter fun i => !isInternal i.name).length).foldl (· + ·) 0

/-! ## Routines -/

/-- Names of functions that are not called as others are, each with numbers of arguments; all numbers are allowed
if there are none. -/
def specialForms : List (String × List Nat) :=
  [("coalesce", []), ("ifnull", [2]), ("iif", [3]), ("likelihood", [2]), ("likely", [1]), ("unlikely", [1])]

/-- Names of functions of groups and of windows, each with numbers of arguments. -/
def groupForms : List (String × List Nat) :=
  [("avg", [1]), ("count", [0, 1]), ("cume_dist", [0]), ("dense_rank", [0]), ("first_value", [1]),
    ("group_concat", [1, 2]), ("lag", [1, 2, 3]), ("last_value", [1]), ("lead", [1, 2, 3]), ("max", [1]),
    ("min", [1]), ("nth_value", [2]), ("ntile", [1]), ("percent_rank", [0]), ("rank", [0]), ("row_number", [0]),
    ("string_agg", [2]), ("sum", [1]), ("total", [1])]

/-- Names of functions that make documents of groups. -/
def groupDocumentForms : List (String × List Nat) :=
  [("json_group_array", [1]), ("json_group_object", [2]), ("jsonb_group_array", [1]), ("jsonb_group_object", [2])]

/-- The rows of a function, one for each number of arguments. -/
def formRows (isOwn : Bool) (kind : String) (flags : Nat) (form : String × List Nat) : List Row :=
  let row (arguments : Int) : Row :=
    [.text form.1, number isOwn.toNat, .text kind, .text "utf8", .integer arguments, number flags]
  if form.2.isEmpty then [row (-1)] else form.2.map fun n => row (Int.ofNat n)

/-- The mark of functions that do no harm. -/
def harmless : Nat :=
  1 <<< 21

/-- The mark of functions of constants that are constant. -/
def constant : Nat :=
  1 <<< 11

/-- The mark of functions that hand on what is known of their results. -/
def handsOn : Nat :=
  1 <<< 20

/-- The mark of functions that are not called from within a schema. -/
def direct : Nat :=
  1 <<< 19

/-- The rows of a routine with the least and the greatest number of its arguments. -/
def routineRows (entry : String × Routine × Nat × Nat) : List Row :=
  let (name, r, least, greatest) := entry
  let counts := if greatest = 127 then [] else (List.range (greatest + 1)).drop least
  let (isOwn, flags) : Bool × Nat :=
    match name, r with
    | "load_extension", _ => (true, direct)
    | "fts3_tokenizer", _ => (false, direct)
    | "unicode_lower", _ => (false, constant)
    | "fts5_source_id", _ => (false, harmless + constant)
    | "fts5", _ | _, .refused | _, .boxTreeDepth | _, .boxTreeNode => (false, 0)
    | "current_date", _ | "current_time", _ | "current_timestamp", _ | _, .counter _ | _, .random
      | _, .randomBlob | _, .hasOption | _, .optionAt => (true, harmless)
    | "sqlite_source_id", _ | "sqlite_version", _ => (true, harmless)
    | _, .document .array _ | _, .document .object _ | _, .document .quote _ | _, .document .set _
      | _, .document .insert _ | _, .document .replace _ => (true, harmless + handsOn + constant)
    | _, _ => (true, harmless + constant)
  formRows isOwn "s" flags (name, counts)

def routinesRows : List Row :=
  (Routine.table ++ Routine.documentNames).flatMap routineRows ++
    specialForms.flatMap (formRows true "s" (harmless + constant)) ++
    groupForms.flatMap (formRows true "w" harmless) ++
    groupDocumentForms.flatMap (formRows true "w" (harmless + handsOn + constant))

/-! ## Rows -/

/-- A table by its name behind that of a schema or behind none, and how many of its columns are shown. -/
abbrev Finder :=
  Option Schema → String → Option (Table × Nat)

/-- The rows of a report on something in a schema, without what it is about. There are none without an answer if the
database does not know what it is to be about. -/
def shownRows? (known : List Table) (find : Finder) (schema : Option Schema) (name : Option String) :
    Report → Option (List Row)
  | setting _ own temporary => some [[if schema == some .temporary then temporary.getD own else own]]
  | pageCount => some [[number (pagesOf known (schema.getD .main))]]
  | changeCount => some [[number (changesOf known)]]
  | columns all =>
    match name.bind (find schema) with
    | none => some []
    | some (t, shown) =>
      some ((if all then t.columns else t.columns.take shown).zipIdx.map fun (c, i) => columnRow t shown all i c)
  | indexes =>
    some (((name.bind (find schema)).map fun t => t.1.indexes.zipIdx.map fun (index, i) => indexRow i index).getD [])
  | indexColumns all =>
    let found := (known.filter fun t => (schema.map (· == t.schema)).getD true).findSome? fun t =>
      (t.indexes.find? fun index => some index.name == name).map fun index => indexColumnRows t index all
    some (found.getD [])
  | foreignKeys =>
    some (((name.bind (find schema)).map fun t => t.1.foreignKeys.zipIdx.map fun (k, i) =>
      [number i, number 0, .text k.table, .text k.column, .text k.target, .text "NO ACTION", .text k.onDelete,
        .text "NONE"]).getD [])
  | strayKeys => if (name.map fun s => (find schema s).isSome).getD true then some [] else none
  | tables => some ((known.filter fun t => (name.map (· == t.name)).getD true).map tableRow)
  | schemas => some [[number 0, .text Schema.main.name, .text ""]]
  | collations =>
    some ([Collation.rightTrimmed, .noCase, .binary].zipIdx.map fun (c, i) => [number i, .text (collationName c)])
  | options => some (BuildOption.all.map fun s => [.text s])
  | routines => some routinesRows
  | reports => some ((table.map (·.1) ++ silentNames).mergeSort.map fun s => [.text s])
  | modules => some (moduleNames.map fun s => [.text s])
  | check _ => if (name.map fun s => (find schema s).isSome).getD true then some [[.text "ok"]] else none
  | optimized => some []

/-- The text that a report is called with, up to its first zero. -/
def textOf (v : Value) : Option String :=
  v.text?.map fun s => String.ofList (s.toList.takeWhile (· != '\x00'))

/-- The rows of a report that is called with values, with those values and their numbers at last. -/
def rows? (known : List Table) (find : Finder) (r : Report) (args : List Value) : Option (List Row) := do
  let fold (s : String) : String := String.ofList (Text.asciiFold s.toList)
  let written := args.map textOf
  let (name, schema) : Option String × Option String :=
    if r.isAboutOne then ((written.getD 0 none).map fold, (written.getD 1 none).map fold)
    else (none, (written.getD 0 none).map fold)
  let schema ← schema.mapM Schema.named?
  let found ← shownRows? known find schema name r
  let own : List Value :=
    match r.isAboutOne, r.isAboutSchema with
    | true, true => [nameValue (written.getD 0 none), nameValue (written.getD 1 none)]
    | true, false => [nameValue (written.getD 0 none)]
    | false, true => [.null]
    | false, false => []
  some (found.zipIdx.map fun (row, i) => row ++ own ++ [number (i + 1)])

end Report

end AuditSearch.Sql
