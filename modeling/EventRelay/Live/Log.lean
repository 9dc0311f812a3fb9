import EventRelay.Live.Network
import EventRelay.Text.Path
import EventRelay.Time.Calendar

namespace EventRelay.Live

/-- Where the relay reports what happens: on the console, and in a file for each day if there is a
    directory for them. -/
structure Log where
  directory? : Option String

namespace Log

def fileName (time : Nat) : String :=
  "hook-relay.log." ++ String.ofList ((Time.timestamp time).toList.takeWhile (· != 'T'))

/-- Adds a line to the file of the day. -/
def append (directory : String) (time : Nat) (line : String) : IO Unit := do
  IO.FS.createDirAll directory
  let file ← IO.FS.Handle.mk (Text.joinPath directory (fileName time)) .append
  file.putStrLn line

/-- Reports something. A report that cannot be written is lost. -/
def write (log : Log) (text : String) : IO Unit := do
  let time ← unixTime
  let line := Time.timestamp time ++ "  " ++ text
  IO.println line
  match log.directory? with
  | some directory => try append directory time line catch _ => return ()
  | none => return ()

end Log

end EventRelay.Live
