import EventRelay.Event

namespace EventRelay

/-- A message that arrived in a mailbox. -/
structure MailMessage where
  id : String
  thread : String
  labels : List String
  subject : String
  sender : String
  snippet : String
  deriving DecidableEq, Repr

namespace MailMessage

def messageAdded : String := "message_added"

/-- The event that a message makes in the mailbox of an account. Every message makes one. -/
def toEvent (account : String) (message : MailMessage) : Event where
  source := .mail
  kind := messageAdded
  subject := message.id
  discriminator := account
  label := "gmail-notify"
  facts := .ofList
    [(Fact.sender, message.sender), (Fact.subject, message.subject),
     (Fact.labels, ",".intercalate message.labels)]
  fields := .ofList
    [("From", message.sender), ("Subject", message.subject), ("Snippet", message.snippet),
     ("ID", message.id), ("Account", account)]

end MailMessage

end EventRelay
