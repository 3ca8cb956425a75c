import AuditSearch.Sql.Function.Arithmetic
import AuditSearch.Sql.Function.BoxTree
import AuditSearch.Sql.Function.Document
import AuditSearch.Sql.Function.Option
import AuditSearch.Sql.Function.Time

/-!
Functions that make a value of the values of their arguments: operators, and functions that are
called by name.
-/
namespace AuditSearch.Sql

/-- What a connection to a database counts. -/
inductive Counter where
  | lastRow
  | lastChanges
  | allChanges
  deriving DecidableEq, Repr

structure Counts where
  lastRow : Int
  lastChanges : Nat
  allChanges : Nat
  deriving DecidableEq, Repr

namespace Counts

def get (n : Counts) : Counter → Int
  | .lastRow => n.lastRow
  | .lastChanges => n.lastChanges
  | .allChanges => n.allChanges

end Counts

/-- An operator between two values. -/
inductive Operator where
  | add
  | subtract
  | multiply
  | divide
  | remainder
  | bitAnd
  | bitOr
  | shiftLeft
  | shiftRight
  | concatenate
  deriving DecidableEq, Repr

/-- A function that is called by name. -/
inductive Routine where
  | abs
  | char
  | concat
  | concatWith
  | format
  | glob
  | hex
  | instr
  | length
  | like
  | lower
  | trimLeft
  | max
  | min
  | nullIf
  | octetLength
  | quote
  | replace
  | round
  | trimRight
  | sign
  | soundex
  | substr
  | subtype
  | trim
  | typeOf
  | unhex
  | unicode
  | unicodeLower
  | upper
  | zeroBlob
  | dateText
  | timeText
  | dateTimeText
  | julianDay
  | unixEpoch
  | formatTime
  | timeDifference
  /-- A text that does not change, such as the version of the database. -/
  | constantText (content : String)
  /-- A function whose calls are all without value. -/
  | silent
  | random
  | randomBlob
  | hasOption
  | optionAt
  | boxTreeDepth
  | boxTreeNode
  /-- A function of documents, whose result is a text, or bytes for those that are documents. -/
  | document (r : DocumentRoutine) (asBytes : Bool)
  | counter (c : Counter)
  | refused
  deriving DecidableEq, Repr

inductive Function where
  | operator (op : Operator)
  | negate
  /-- The value itself, without what its source prefers it to be compared as. -/
  | plain
  /-- The value itself, which is true with a probability in units of `2 ^ -27`. -/
  | likely (probability : Nat)
  | complement
  | isNull
  | isNotNull
  /-- Whether a value counts as true or as false, or the opposite test; null counts as neither. -/
  | hasTruth (wanted opposite : Bool)
  | cast (type : Affinity)
  | routine (r : Routine)
  deriving DecidableEq, Repr

def Operator.apply : Operator → Value → Value → Value
  | add => Value.add
  | subtract => Value.subtract
  | multiply => Value.multiply
  | divide => Value.divide
  | remainder => Value.remainder
  | bitAnd => Value.bitAnd
  | bitOr => Value.bitOr
  | shiftLeft => Value.shiftLeft
  | shiftRight => Value.shiftRight
  | concatenate => Value.concatenate

namespace Routine

def version : String :=
  "3.46.0"

def sourceId : String :=
  "2024-05-23 13:25:27 96c92aba00c8375bc32fafcdf12429c58bd8aabfcadab6683e35bbb9cdebf19e"

/-- A name of a routine, with the least and the greatest number of its arguments. -/
def table : List (String × Routine × Nat × Nat) :=
  let many := 127
  [("abs", abs, 1, 1), ("bm25", refused, 0, many), ("changes", counter .lastChanges, 0, 0),
    ("char", char, 0, many), ("concat", concat, 1, many), ("concat_ws", concatWith, 2, many),
    ("current_date", dateText, 0, 0), ("current_time", timeText, 0, 0),
    ("current_timestamp", dateTimeText, 0, 0), ("date", dateText, 0, many),
    ("datetime", dateTimeText, 0, many), ("format", format, 0, many), ("fts3_tokenizer", refused, 1, 2),
    ("fts5", silent, 1, 1), ("fts5_source_id", constantText ("fts5: " ++ sourceId), 0, 0), ("glob", glob, 2, 2),
    ("hex", hex, 1, 1), ("highlight", refused, 0, many), ("instr", instr, 2, 2),
    ("julianday", julianDay, 0, many), ("last_insert_rowid", counter .lastRow, 0, 0),
    ("length", length, 1, 1), ("like", like, 2, 3), ("load_extension", refused, 1, 2),
    ("lower", lower, 1, 1), ("ltrim", trimLeft, 1, 2), ("match", refused, 2, 2),
    ("matchinfo", refused, 1, 2), ("max", max, 2, many), ("min", min, 2, many),
    ("nullif", nullIf, 2, 2), ("octet_length", octetLength, 1, 1), ("offsets", refused, 1, 1),
    ("optimize", refused, 1, 1), ("printf", format, 0, many), ("quote", quote, 1, 1), ("random", random, 0, 0),
    ("randomblob", randomBlob, 1, 1), ("replace", replace, 3, 3), ("round", round, 1, 2),
    ("rtreecheck", refused, 0, many), ("rtreedepth", boxTreeDepth, 1, 1), ("rtreenode", boxTreeNode, 2, 2),
    ("rtrim", trimRight, 1, 2), ("sign", sign, 1, 1), ("snippet", refused, 0, many),
    ("soundex", soundex, 1, 1), ("sqlite_compileoption_get", optionAt, 1, 1),
    ("sqlite_compileoption_used", hasOption, 1, 1), ("sqlite_log", silent, 2, 2),
    ("sqlite_source_id", constantText sourceId, 0, 0), ("sqlite_version", constantText version, 0, 0),
    ("strftime", formatTime, 0, many), ("substr", substr, 2, 3), ("substring", substr, 2, 3),
    ("subtype", subtype, 1, 1), ("time", timeText, 0, many), ("timediff", timeDifference, 2, 2),
    ("total_changes", counter .allChanges, 0, 0), ("trim", trim, 1, 2), ("typeof", typeOf, 1, 1),
    ("unhex", unhex, 1, 2), ("unicode", unicode, 1, 1), ("unicode_lower", unicodeLower, 1, 1),
    ("unixepoch", unixEpoch, 0, many), ("upper", upper, 1, 1), ("zeroblob", zeroBlob, 1, 1)]

/-- A name of a routine of documents, with the least and the greatest number of its arguments. -/
def documentTable : List (String × DocumentRoutine × Nat × Nat) :=
  let many := 127
  [("", .remove, 1, 1), ("_array", .array, 0, many), ("_extract", .extract, 0, many),
    ("_insert", .insert, 0, many), ("_object", .object, 0, many), ("_patch", .patch, 2, 2),
    ("_remove", .remove, 0, many), ("_replace", .replace, 0, many), ("_set", .set, 0, many)]

def documentNames : List (String × Routine × Nat × Nat) :=
  let named (start : String) (asBytes : Bool) : List (String × Routine × Nat × Nat) :=
    documentTable.map fun (name, r, least, greatest) => (start ++ name, document r asBytes, least, greatest)
  named "json" false ++ named "jsonb" true ++
    [("->", document (.arrow false) false, 2, 2), ("->>", document (.arrow true) false, 2, 2),
      ("json_array_length", document .arrayLength false, 1, 2),
      ("json_error_position", document .faultPlace false, 1, 1), ("json_pretty", document .lines false, 1, 2),
      ("json_quote", document .quote false, 1, 1), ("json_type", document .kind false, 1, 2),
      ("json_valid", document .isValid false, 1, 2)]

def named? (written : String) (arguments : Nat) : Option Routine := do
  let name := String.ofList (Text.asciiFold written.toList)
  let (r, least, greatest) ← (table.lookup name).or (documentNames.lookup name)
  if least ≤ arguments ∧ arguments ≤ greatest then some r else none

/-- Whether calls with the same arguments have the same value. -/
def isConstant : Routine → Bool
  | random | randomBlob | counter _ | boxTreeDepth | boxTreeNode | refused => false
  | _ => true

def seesDocuments : Routine → Bool
  | document _ _ | max | min | nullIf | subtype => true
  | _ => false

def compares : Routine → Bool
  | max | min | nullIf => true
  | _ => false

/-- The least value, or the greatest one; of equal values the last one is the least and the first one
the greatest. One null makes null. -/
def extreme (c : Collation) (wanted : Ordering) : List Value → Value
  | [] => .null
  | v :: vs =>
    if (v :: vs).contains .null then .null
    else vs.foldl (fun best x => if Value.order? c best x == some wanted ||
      (wanted == .gt && Value.order? c best x == some .eq) then x else best) v

def oddNumber : Int :=
  4658372910574836211

/-- The same byte so many times, if a value may have as many. -/
def blobOf? (b : UInt8) (n : Nat) : Option Value :=
  if Value.maxSize < n then none else some (.blob (List.replicate n b))

/-- The value of a call, null if the routine does not take so many arguments. There is none if the
database gives up. -/
def apply (n : Counts) (c : Collation) : Routine → List Value → Option Value
  | abs, [x] => x.abs?
  | char, xs => some (Value.char xs)
  | concat, xs => some (Value.concatenateAll xs)
  | concatWith, x :: xs => some (Value.concatenateWith x xs)
  | format, xs => some (Value.format xs)
  | glob, [pattern, x] => Value.glob? pattern x
  | hex, [x] => some x.hex
  | instr, [x, part] => some (x.instr part)
  | length, [x] => some x.length
  | like, [pattern, x] => Value.like? pattern x
  | like, [pattern, x, escape] => Value.likeEscaped? pattern x escape
  | lower, [x] => some x.lower
  | trimLeft, [x] => some (x.trimmed Value.trimLeft (.text " "))
  | trimLeft, [x, set] => some (x.trimmed Value.trimLeft set)
  | max, xs => some (extreme c .lt xs)
  | min, xs => some (extreme c .gt xs)
  | nullIf, [x, y] => some (if Value.order? c x y == some .eq then .null else x)
  | octetLength, [x] => some x.octetLength
  | quote, [x] => some x.quote
  | replace, [x, part, by_] => some (x.replace part by_)
  | round, [x] => some (x.round (.integer 0))
  | round, [x, places] => some (x.round places)
  | trimRight, [x] => some (x.trimmed Value.trimRight (.text " "))
  | trimRight, [x, set] => some (x.trimmed Value.trimRight set)
  | sign, [x] => some x.sign
  | soundex, [x] => some x.soundex
  | substr, [x, place] => some (x.substr place none)
  | substr, [x, place, size] => some (x.substr place (some size))
  | trim, [x] => some (x.trimmed (fun s cs => Value.trimRight s (Value.trimLeft s cs)) (.text " "))
  | trim, [x, set] => some (x.trimmed (fun s cs => Value.trimRight s (Value.trimLeft s cs)) set)
  | subtype, [.document _] | subtype, [.broken _ true] => some (.integer 74)
  | subtype, [_] => some (.integer 0)
  | typeOf, [x] => some (.text x.typeName)
  | unhex, [x] => some (x.unhex (.text ""))
  | unhex, [x, ignored] => some (x.unhex ignored)
  | unicode, [x] => some x.unicode
  | unicodeLower, [x] => some x.unicodeLower
  | upper, [x] => some x.upper
  | zeroBlob, [x] => blobOf? 0 x.toInteger.toNat
  | dateText, xs => some (Value.dateText xs)
  | timeText, xs => some (Value.timeText xs)
  | dateTimeText, xs => some (Value.dateTimeText xs)
  | julianDay, xs => some (Value.julianDay xs)
  | unixEpoch, xs => some (Value.unixEpoch xs)
  | formatTime, xs => some (Value.formatTime xs)
  | timeDifference, [x, y] => some (Value.timeDifference x y)
  | hasOption, [x] => some x.buildOptionSet
  | optionAt, [x] => some x.buildOptionAt
  | boxTreeDepth, [x] => x.boxTreeDepth?
  | boxTreeNode, [n, x] => some (n.boxTreeNode x)
  | constantText content, _ => some (.text content)
  | random, _ => some (.integer oddNumber)
  | randomBlob, [x] => blobOf? 165 (Nat.max x.toInteger.toNat 1)
  | document r asBytes, xs => r.apply asBytes xs
  | counter k, _ => some (.integer (n.get k))
  | refused, _ => none
  | _, _ => some .null

end Routine

/-- Whether a name with so many arguments is that of a function whose calls with constant arguments are
constant. -/
def isConstantName (name : String) (arguments : Nat) : Bool :=
  match name, arguments with
  | "iif", 3 | "ifnull", 2 | "likelihood", 2 | "likely", 1 | "unlikely", 1 => true
  | "coalesce", n + 2 => n + 2 ≤ 127
  | name, n => ((Routine.named? name n).map Routine.isConstant).getD false

def Function.seesDocuments : Function → Bool
  | plain | likely _ | cast _ => true
  | routine r => r.seesDocuments
  | _ => false

/-- The value of a function, where the texts among its arguments are compared by a collation. There is
none if the database gives up. -/
def Function.apply (n : Counts) (c : Collation) : Function → List Value → Option Value
  | operator op, [x, y] => some (op.apply x y)
  | negate, [x] => some x.negate
  | plain, [x] | likely _, [x] => some x
  | complement, [x] => some x.complement
  | isNull, [x] => some (.ofTruth (some (x == .null)))
  | isNotNull, [x] => some (.ofTruth (some (x != .null)))
  | hasTruth wanted opposite, [x] => some (.ofTruth (some ((x.truth == some wanted) != opposite)))
  | cast type, [x] => some (x.cast type)
  | routine r, xs => r.apply n c xs
  | _, _ => some .null

end AuditSearch.Sql
