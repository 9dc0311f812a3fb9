import EventRelay.Cursor.Store

namespace EventRelay.Live

/-- The number of a failure as the system gives it, with or without a minus sign. -/
def failureNumber (code : UInt32) : Nat :=
  min code.toNat (UInt32.size - code.toNat)

/-- The number of a failure of the system, and the system's words for it. -/
def systemFailure? : IO.Error → Option (Nat × String)
  | .otherError code words | .resourceBusy code words | .resourceVanished code words
  | .unsupportedOperation code words | .hardwareFault code words
  | .unsatisfiedConstraints code words | .illegalOperation code words
  | .protocolError code words | .timeExpired code words
  | .alreadyExists _ code words | .interrupted _ code words | .noFileOrDirectory _ code words
  | .invalidArgument _ code words | .permissionDenied _ code words
  | .resourceExhausted _ code words | .inappropriateType _ code words
  | .noSuchThing _ code words => some (failureNumber code, words)
  | .unexpectedEof | .userError _ => none

/-- What is shown of a failure of the system. -/
def failureText (error : IO.Error) : String :=
  match systemFailure? error with
  | some (number, words) =>
    String.capitalize words ++ " (os error " ++ Text.natText number ++ ")"
  | none => toString error

/-- What a failure of the system means for a file. -/
def fileError (error : IO.Error) : FileError :=
  match systemFailure? error with
  | some (2, _) => .missing
  | some (17, _) => .alreadyExists
  | some (20, _) => .notDirectory
  | some (21, _) => .isDirectory
  | some (36, _) => .nameTooLong
  | _ => .failed (failureText error)

def attempt {α : Type} (action : IO α) : IO (Except FileError α) := do
  return (← action.toBaseIO).mapError fileError

def readFile (path : String) : IO (Except FileError (List UInt8)) :=
  attempt do return (← IO.FS.readBinFile path).toList

/-- Does what the cursor store asks of its directory. -/
def performIn (directory : String) : (operation : FileOperation) → IO operation.Answer
  | .makeDirectory => attempt (IO.FS.createDirAll directory)
  | .read name => readFile (Text.joinPath directory name)
  | .write name content =>
    attempt (IO.FS.writeBinFile (Text.joinPath directory name) ⟨content.toArray⟩)
  | .rename source target =>
    attempt (IO.FS.rename (Text.joinPath directory source) (Text.joinPath directory target))

def runIn {α : Type} (directory : String) (work : FileM α) : IO α :=
  work.run (performIn directory)

end EventRelay.Live
