import EventRelay.Cursor.Error
import EventRelay.Cursor.File
import EventRelay.FileError
import EventRelay.Script
import EventRelay.Text.Path

namespace EventRelay

/-- What the cursor store asks of the directory that it keeps its files in. -/
inductive FileOperation
  /-- Makes the directory, and the ones above it, unless it is there. -/
  | makeDirectory
  | read (name : String)
  /-- Writes a file from its beginning. A failure may leave a part of the content. -/
  | write (name : String) (content : List UInt8)
  /-- Gives a file another name, in place of the file that had it, in one step. -/
  | rename (source target : String)
  deriving DecidableEq, Repr

abbrev FileOperation.Answer : FileOperation → Type
  | makeDirectory => Except FileError Unit
  | read _ => Except FileError (List UInt8)
  | write _ _ => Except FileError Unit
  | rename _ _ => Except FileError Unit

abbrev FileM (α : Type) := Script FileOperation FileOperation.Answer α

def FileM.query (operation : FileOperation) : FileM operation.Answer :=
  Script.query operation

/-- Keeps the position of each account in a file of its own, all in one directory. -/
structure CursorStore where
  directory : String
  deriving DecidableEq, Repr

namespace CursorStore

def path (store : CursorStore) (account : String) : String :=
  Text.joinPath store.directory (CursorFile.name account)

def temporaryPath (store : CursorStore) (account : String) : String :=
  Text.joinPath store.directory (CursorFile.temporaryName account)

/-- The saved position of an account, if one was saved. -/
def load (store : CursorStore) (account : String) : FileM (Except CursorError (Option UInt64)) := do
  match ← FileM.query (.read (CursorFile.name account)) with
  | .error .missing => return .ok none
  | .error error => return .error (.io (store.path account) error)
  | .ok content =>
    match CursorFile.read content with
    | .ok position => return .ok (some position)
    | .error problem => return .error (.unparsable problem)

/-- Saves the position of an account. The old one stays until the new one has been written in full. -/
def save (store : CursorStore) (account : String) (position : UInt64) :
    FileM (Except CursorError Unit) := do
  match ← FileM.query .makeDirectory with
  | .error error => return .error (.io store.directory error)
  | .ok () =>
    match ← FileM.query (.write (CursorFile.temporaryName account) (CursorFile.content position)) with
    | .error error => return .error (.io (store.temporaryPath account) error)
    | .ok () =>
      match ← FileM.query
          (.rename (CursorFile.temporaryName account) (CursorFile.name account)) with
      | .error error => return .error (.io (store.path account) error)
      | .ok () => return .ok ()

end CursorStore

end EventRelay
