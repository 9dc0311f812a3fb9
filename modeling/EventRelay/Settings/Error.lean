import EventRelay.FileError
import EventRelay.Json.Problem

namespace EventRelay

/-- What keeps the relay from being set up. -/
inductive ConfigError
  | invalidValue (key message : String)
  | unreadable (path : String) (error : FileError)
  | unparsable (problem : Json.Problem)
  deriving DecidableEq, Repr

namespace ConfigError

def message : ConfigError → String
  | invalidValue key message => "Invalid configuration value for " ++ key ++ ": " ++ message
  | unreadable path error => "Failed to read rules file " ++ path ++ ": " ++ error.message
  | unparsable problem => "Failed to parse rules file: " ++ problem.message

/-- The messages of the error and of what caused it, the error's own first. -/
def messages : ConfigError → List String
  | invalidValue key message => [(invalidValue key message).message]
  | unreadable path error => [(unreadable path error).message, error.message]
  | unparsable problem => [(unparsable problem).message, problem.message]

end ConfigError

end EventRelay
