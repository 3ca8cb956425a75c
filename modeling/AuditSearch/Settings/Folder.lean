import AuditSearch.Json.Reader
import AuditSearch.Json.Records
import AuditSearch.Json.Writer
import AuditSearch.Settings.Place

/-!
Folders of settings files. Layers of settings are read from folders in order; a folder without the
file is no layer, and a file that cannot be read ends the reading.
-/
namespace AuditSearch

inductive Entry where
  /-- A file with its text, `none` if its bytes are no text. -/
  | file (content : Option String)
  | folder
  deriving DecidableEq, Repr

/-- A folder and what stands around it. -/
structure Folder where
  /-- Whether the folder is there. -/
  isMade : Bool
  entries : List (Place × Entry)

/-- What is at the end of a path. -/
inductive Spot where
  | taken (place : Place) (entry : Entry)
  /-- Nothing, but something could be made there: only a folder if a stroke stands behind the name. -/
  | free (place : Place) (folderOnly : Bool)
  | nowhere
  deriving DecidableEq, Repr

namespace Folder

def absent : Folder :=
  ⟨false, []⟩

def made (f : Folder) : Folder :=
  { f with isMade := true }

/-- What stands at a place. The folders above are there. -/
def entry? (f : Folder) (p : Place) : Option Entry :=
  if p = .here then (if f.isMade then some .folder else none)
  else if p.names.isEmpty then some .folder
  else f.entries.lookup p

def put (f : Folder) (p : Place) (entry : Entry) : Folder :=
  { f with entries := (p, entry) :: f.entries.filter fun e => e.1 != p }

/-- Follows parts of a path from a folder that is there. -/
def follow (f : Folder) (p : Place) : List String → Spot
  | [] => .taken p .folder
  | part :: parts =>
    if Path.stays part then follow f p parts
    else if part == ".." then follow f p.parent parts
    else if Path.maxNameBytes < part.utf8ByteSize then .nowhere
    else
      match f.entry? (p.child part) with
      | some .folder => follow f (p.child part) parts
      | some entry => if parts.isEmpty then .taken (p.child part) entry else .nowhere
      | none => if parts.all (·.isEmpty) then .free (p.child part) !parts.isEmpty else .nowhere

def find (f : Folder) (path : String) : Spot :=
  if !Path.isValid path || (f.entry? (Path.start path)).isNone then .nowhere
  else f.follow (Path.start path) (Path.parts path)

def isThere (f : Folder) (path : String) : Bool :=
  match f.find path with
  | .taken _ _ => true
  | _ => false

def write (f : Folder) (path : String) (content : Option String) : Except Failure Folder :=
  match f.find path with
  | .taken p (.file _) | .free p false => .ok (f.put p (.file content))
  | .taken _ .folder | .free _ true => .error (.io "Is a directory")
  | .nowhere => .error (.io "No such file or directory")

/-- Makes the folders that are missing on the way along parts of a path. -/
def makeAlong (f : Folder) (p : Place) : List String → Folder
  | [] => f
  | part :: parts =>
    if Path.stays part then makeAlong f p parts
    else if part == ".." then makeAlong f p.parent parts
    else if Path.maxNameBytes < part.utf8ByteSize then f
    else
      match f.entry? (p.child part) with
      | some .folder => makeAlong f (p.child part) parts
      | some _ => f
      | none => makeAlong (f.put (p.child part) .folder) (p.child part) parts

/-- Makes a folder and those on the way to it. -/
def makeFolder (f : Folder) (path : String) : Folder :=
  if Path.isValid path then f.made.makeAlong (Path.start path) (Path.parts path) else f

/-- Makes the folder if it is not there, and writes a file. -/
def store (f : Folder) (path : String) (content : Option String) : Folder × Except Failure Unit :=
  match f.made.write path content with
  | .ok g => (g, .ok ())
  | .error e => (f.made, .error e)

def read (f : Folder) (path : String) : Except Failure String :=
  match f.find path with
  | .taken _ (.file (some content)) => .ok content
  | .taken _ (.file none) => .error (.io "stream did not contain valid UTF-8")
  | .taken _ .folder => .error (.io "Is a directory")
  | _ => .error (.io "No such file or directory")

section Values
variable {α : Type} [Codec α]

def decodeDocument (content : String) : Except Failure α :=
  match (Json.parse? content).bind decode? with
  | none => .error (.json "invalid document")
  | some a => .ok a

def load (f : Folder) (path : String) : Except Failure α := do
  let content ← f.read path
  decodeDocument content

/-- Like `load`, where a missing file is no value. -/
def loadOptional (f : Folder) (path : String) : Except Failure (Option α) :=
  if f.isThere path then (f.load path).map some else .ok none

/-- The value in a file, or the default if it is missing or cannot be read. -/
def loadOrDefault (f : Folder) (default : α) (path : String) : α :=
  match f.loadOptional path with
  | .ok (some a) => a
  | _ => default

/-- Writes a value as an indented document. -/
def save (f : Folder) (path : String) (a : α) : Folder × Except Failure Unit :=
  f.store path (some (Json.print .indented (encode a)))

end Values

end Folder

namespace Settings

def fileName : String :=
  "search.json"

/-- Fails if the offset is out of range. -/
def validate (s : Settings) : Except Failure Settings :=
  s.offsetSeconds.map fun _ => s

/-- Merges the settings of one folder, if it has any. -/
def addLayer (s : Settings) (f : Folder) : Except Failure Settings := do
  let layer ← f.loadOptional fileName
  pure ((layer.map s.merge).getD s)

def loadLayers (folders : List Folder) : Except Failure Settings := do
  let s ← folders.foldlM addLayer new
  s.validate

def loadFrom (f : Folder) : Except Failure Settings :=
  loadLayers [f]

def save (s : Settings) (f : Folder) : Folder × Except Failure Unit :=
  f.save fileName s

/-- The name of the settings folder in the folder of a user's settings. -/
def userFolder : String :=
  "trail"

def projectFolder : String :=
  ".trail"

end Settings

end AuditSearch
