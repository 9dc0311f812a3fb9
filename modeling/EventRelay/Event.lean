import EventRelay.Fields

namespace EventRelay

/-- How long an action may run and how long it waits before it starts, in seconds. -/
structure Timing where
  timeout : UInt32
  delay : UInt32
  deriving DecidableEq, Repr

/-- Where an event came from. -/
inductive Source
  | cardMove
  | comment
  | ciResult
  | mail
  deriving DecidableEq, Repr

namespace Source

def tag : Source → String
  | .cardMove => "card_move"
  | .comment => "comment"
  | .ciResult => "ci_result"
  | .mail => "mail"

/-- The timing of an action that sets none. Mail is passed on at once; pushed events wait two
    seconds. -/
def defaultTiming : Source → Timing
  | .cardMove | .comment | .ciResult => ⟨120, 2⟩
  | .mail => ⟨30, 0⟩

/-- The message of an action that has no template of its own. -/
def defaultTemplate : Source → String
  | .cardMove => "Card \x7b\x7b.CardName\x7d\x7d moved to \x7b\x7b.ListAfterName\x7d\x7d"
  | .comment => "New comment on card \x7b\x7b.CardName\x7d\x7d"
  | .ciResult => "\n".intercalate
    ["[Webhook Event] GitHub event detected.",
     "",
     "Source: github",
     "Event: \x7b\x7b.Event\x7d\x7d",
     "Action: \x7b\x7b.Action\x7d\x7d",
     "Repository: \x7b\x7b.Repository\x7d\x7d",
     "PR: #\x7b\x7b.PR\x7d\x7d",
     "Conclusion: \x7b\x7b.Conclusion\x7d\x7d",
     "",
     "Check whether a tracked task has a PR matching this event.",
     "If CI completed, act on the result. If a review was submitted, process its comments.",
     "If nothing actionable, exit silently."]
  | .mail => "📧 \x7b\x7b.From\x7d\x7d: \x7b\x7b.Subject\x7d\x7d"

end Source

/-- One occurrence that rules are asked about. Rules see the facts; templates see the fields. -/
structure Event where
  source : Source
  kind : String
  subject : String
  discriminator : String
  label : String
  facts : Fields
  fields : Fields
  deriving DecidableEq, Repr

/-- Events with one key are repetitions of each other within the suppression window. -/
def Event.dedupKey (event : Event) : String :=
  event.source.tag ++ ":" ++ event.subject ++ ":" ++ event.discriminator

namespace Fact

def list : String := "list"

def action : String := "action"

def event : String := "event"

def conclusion : String := "conclusion"

def repository : String := "repository"

def sender : String := "from"

def labels : String := "labels"

def subject : String := "subject"

end Fact

end EventRelay
