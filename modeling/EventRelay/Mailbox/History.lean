import EventRelay.Http.Status
import EventRelay.Ingest.Mail

namespace EventRelay

/-- Why the history of a mailbox could not be fetched. -/
inductive HistoryError
  /-- The mailbox does not know its history back to the position any more, and never will. -/
  | expired (position : UInt64)
  | unauthorized (account : String)
  | request (endpoint reason : String)
  /-- The mailbox answered with the status of a failure. -/
  | status (endpoint : String) (code : Nat) (body : String)
  | invalidResponse (endpoint reason : String)
  | missingPosition (endpoint : String)
  deriving DecidableEq, Repr

namespace HistoryError

def statusReason (code : Nat) (body : String) : String :=
  "status " ++ Http.Status.text code ++ ": " ++ body

def missingPositionReason : String := "missing historyId"

def message : HistoryError → String
  | expired position => "History position " ++ Text.natText position.toNat ++ " expired at source"
  | unauthorized account => "Authentication failed for account " ++ account
  | request endpoint reason => "Request to " ++ endpoint ++ " failed: " ++ reason
  | status endpoint code body =>
    "Request to " ++ endpoint ++ " failed: " ++ statusReason code body
  | invalidResponse endpoint reason => "Invalid response from " ++ endpoint ++ ": " ++ reason
  | missingPosition endpoint =>
    "Invalid response from " ++ endpoint ++ ": " ++ missingPositionReason

def isExpired : HistoryError → Bool
  | expired _ => true
  | _ => false

end HistoryError

/-- The messages that arrived after a position, and the position after them as the mailbox reports
    it. -/
structure HistoryPage where
  entries : List MailMessage
  position : UInt64
  deriving DecidableEq, Repr

end EventRelay
