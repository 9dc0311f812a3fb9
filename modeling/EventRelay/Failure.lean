import EventRelay.Cursor.Error
import EventRelay.Gateway.Error
import EventRelay.Mailbox.History
import EventRelay.Settings.Error

namespace EventRelay

/-- Any failure of a part of the relay. -/
inductive Failure
  | config (error : ConfigError)
  | history (error : HistoryError)
  | gateway (error : GatewayError)
  | cursor (error : CursorError)
  deriving DecidableEq, Repr

namespace Failure

/-- The text of the part's own error. -/
def cause : Failure → String
  | config error => error.message
  | history error => error.message
  | gateway error => error.message
  | cursor error => error.message

/-- The name of the part, which stands before its error. -/
def part : Failure → String
  | config _ => "Configuration"
  | history _ => "Source"
  | gateway _ => "Gateway"
  | cursor _ => "Cursor store"

def message (failure : Failure) : String :=
  failure.part ++ " error: " ++ failure.cause

end Failure

end EventRelay
