import EventRelay.Cursor.Store
import EventRelay.FileName

namespace EventRelay

/-- What a name in a directory stands for. -/
inductive DirectoryEntry
  | file (content : List UInt8)
  | directory
  deriving DecidableEq, Repr

/-- A directory as a file system keeps it. Each name stands for one entry. -/
inductive Directory
  /-- A file stands in its place. -/
  | obstructed
  | holding (entries : List (String × DirectoryEntry))
  deriving DecidableEq, Repr

namespace Directory

def empty : Directory :=
  .holding []

def entry? : Directory → String → Option DirectoryEntry
  | obstructed, _ => none
  | holding entries, name => entries.lookup name

def without (entries : List (String × DirectoryEntry)) (name : String) :
    List (String × DirectoryEntry) :=
  entries.filter (·.1 != name)

/-- Puts an entry under a name, in place of the one that may be there. -/
def put : Directory → String → DirectoryEntry → Directory
  | obstructed, _, _ => obstructed
  | holding entries, name, entry => holding ((name, entry) :: without entries name)

def remove : Directory → String → Directory
  | obstructed, _ => obstructed
  | holding entries, name => holding (without entries name)

def makeDirectory : Directory → Except FileError Unit
  | obstructed => .error .alreadyExists
  | holding _ => .ok ()

def read (directory : Directory) (name : String) : Except FileError (List UInt8) := do
  FileName.check name
  if directory = obstructed then throw .notDirectory
  match directory.entry? name with
  | none => throw .missing
  | some .directory => throw .isDirectory
  | some (.file content) => return content

/-- A name that stands for a directory cannot be written. -/
def write (directory : Directory) (name : String) (content : List UInt8) :
    Except FileError Directory := do
  FileName.check name
  if directory = obstructed then throw .notDirectory
  match directory.entry? name with
  | some .directory => throw .isDirectory
  | _ => return directory.put name (.file content)

/-- A file cannot take the place of a directory. -/
def rename (directory : Directory) (source target : String) : Except FileError Directory := do
  FileName.check source
  FileName.check target
  if directory = obstructed then throw .notDirectory
  match directory.entry? source, directory.entry? target with
  | none, _ => throw .missing
  | some (.file _), some .directory => throw .isDirectory
  | some entry, _ => return (directory.remove source).put target entry

/-- The directory after a change. One that fails leaves it as it is. -/
def change (result : Except FileError Directory) : StateM Directory (Except FileError Unit) := do
  match result with
  | .ok directory =>
    set directory
    return .ok ()
  | .error error => return .error error

/-- What an operation does to the directory when it is not interrupted. -/
def perform : (operation : FileOperation) → StateM Directory operation.Answer
  | .makeDirectory => fun directory => (directory.makeDirectory, directory)
  | .read name => fun directory => (directory.read name, directory)
  | .write name content => do change ((← get).write name content)
  | .rename source target => do change ((← get).rename source target)

end Directory

end EventRelay
