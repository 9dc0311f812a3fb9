namespace EventRelay

/-- Why an operation on a file failed. -/
inductive FileError
  | missing
  | alreadyExists
  | notDirectory
  | isDirectory
  | nameTooLong
  /-- A name holds the character that ends names. -/
  | invalidName
  /-- The file holds no text. -/
  | invalidText
  | failed (cause : String)
  deriving DecidableEq, Repr

def FileError.message : FileError → String
  | missing => "No such file or directory (os error 2)"
  | alreadyExists => "File exists (os error 17)"
  | notDirectory => "Not a directory (os error 20)"
  | isDirectory => "Is a directory (os error 21)"
  | nameTooLong => "File name too long (os error 36)"
  | invalidName => "file name contained an unexpected NUL byte"
  | invalidText => "stream did not contain valid UTF-8"
  | failed cause => cause

end EventRelay
