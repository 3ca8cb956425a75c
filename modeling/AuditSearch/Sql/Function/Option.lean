import AuditSearch.Sql.Value

/-!
The options that the database was built with, and what a statement may ask about them.
-/
namespace AuditSearch.Sql

namespace BuildOption

/-- All options, each with what it is set to, in alphabetical order. -/
def all : List String :=
  ["ATOMIC_INTRINSICS=1", "COMPILER=gcc-12.2.0", "DEFAULT_AUTOVACUUM", "DEFAULT_CACHE_SIZE=-2000",
    "DEFAULT_FILE_FORMAT=4", "DEFAULT_FOREIGN_KEYS", "DEFAULT_JOURNAL_SIZE_LIMIT=-1", "DEFAULT_MMAP_SIZE=0",
    "DEFAULT_PAGE_SIZE=4096", "DEFAULT_PCACHE_INITSZ=20", "DEFAULT_RECURSIVE_TRIGGERS",
    "DEFAULT_SECTOR_SIZE=4096", "DEFAULT_SYNCHRONOUS=2", "DEFAULT_WAL_AUTOCHECKPOINT=1000",
    "DEFAULT_WAL_SYNCHRONOUS=2", "DEFAULT_WORKER_THREADS=0", "DIRECT_OVERFLOW_READ", "ENABLE_API_ARMOR",
    "ENABLE_COLUMN_METADATA", "ENABLE_DBSTAT_VTAB", "ENABLE_FTS3", "ENABLE_FTS3_PARENTHESIS", "ENABLE_FTS5",
    "ENABLE_LOAD_EXTENSION", "ENABLE_MEMORY_MANAGEMENT", "ENABLE_RTREE", "ENABLE_STAT4",
    "MALLOC_SOFT_LIMIT=1024", "MAX_ATTACHED=10", "MAX_COLUMN=2000", "MAX_COMPOUND_SELECT=500",
    "MAX_DEFAULT_PAGE_SIZE=8192", "MAX_EXPR_DEPTH=1000", "MAX_FUNCTION_ARG=127", "MAX_LENGTH=1000000000",
    "MAX_LIKE_PATTERN_LENGTH=50000", "MAX_MMAP_SIZE=0x7fff0000", "MAX_PAGE_COUNT=0xfffffffe",
    "MAX_PAGE_SIZE=65536", "MAX_SQL_LENGTH=1000000000", "MAX_TRIGGER_DEPTH=1000", "MAX_VARIABLE_NUMBER=32766",
    "MAX_VDBE_OP=250000000", "MAX_WORKER_THREADS=8", "MUTEX_PTHREADS", "SOUNDEX", "SYSTEM_MALLOC",
    "TEMP_STORE=1", "THREADSAFE=1", "USE_URI"]

/-- What may be written in front of an option, without capital letters. -/
def start : List Char :=
  "sqlite_".toList

/-- Whether a text, without capital letters, is an option, or one up to the end of a word in it. -/
def isMeant (written : List Char) (option : String) : Bool :=
  let cs := Text.asciiFold option.toList
  written.isPrefixOf cs &&
    match cs.drop written.length with
    | [] => true
    | c :: _ => !(c.isAlphanum || c == '_')

def isSet (written : String) : Bool :=
  let cs := Text.asciiFold (written.toList.takeWhile (· != '\x00'))
  all.any (isMeant (if start.isPrefixOf cs then cs.drop start.length else cs))

end BuildOption

namespace Value

def buildOptionSet (v : Value) : Value :=
  ofTruth (v.text?.map BuildOption.isSet)

def buildOptionAt (v : Value) : Value :=
  let n := v.toInteger.bmod (1 <<< 32)
  if n < 0 then null else ((BuildOption.all[n.toNat]?).map text).getD null

end Value

end AuditSearch.Sql
