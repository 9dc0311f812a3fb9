import EventRelay.Action
import EventRelay.Rule.Condition
import EventRelay.Rule.MailMatch

namespace EventRelay

/-- What to do about events of one kind, when a condition and a mail match hold of their facts. -/
structure Rule where
  name : String
  eventKind : String
  condition : Condition
  mailMatch : MailMatch
  action : ActionSpec
  deriving DecidableEq, Repr

namespace Rule

def applies (rule : Rule) (kind : String) (facts : Fields) : Bool :=
  rule.eventKind == kind && rule.condition.holds facts && rule.mailMatch.holds facts

/-- The rule that decides about an event: in the order of the list, the first that applies. -/
def findFirst? (rules : List Rule) (kind : String) (facts : Fields) : Option Rule :=
  rules.find? (·.applies kind facts)

end Rule

end EventRelay
