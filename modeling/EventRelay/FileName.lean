import EventRelay.FileError

namespace EventRelay.FileName

/-- The longest name of a file, in bytes. -/
def maxLength : Nat := 255

/-- Checks that a file can have that name. -/
def check (name : String) : Except FileError Unit :=
  if name.toList.contains '\x00' then .error .invalidName
  else if maxLength < name.utf8ByteSize then .error .nameTooLong
  else .ok ()

end EventRelay.FileName
