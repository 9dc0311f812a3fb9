import EventRelay.FileError
import EventRelay.Json.Problem

namespace EventRelay

/-- Why a saved position could not be read or written. -/
inductive CursorError
  | io (path : String) (error : FileError)
  | unparsable (problem : Json.Problem)
  deriving DecidableEq, Repr

def CursorError.message : CursorError → String
  | .io path error => "Cursor IO error at " ++ path ++ ": " ++ error.message
  | .unparsable problem => "Cursor serialization error: " ++ problem.message

end EventRelay
