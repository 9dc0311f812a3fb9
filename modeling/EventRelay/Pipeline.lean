import EventRelay.Effect
import EventRelay.Rule.Resolution

namespace EventRelay

/-- What became of an event. -/
inductive Outcome
  /-- An event with the same key came shortly before. -/
  | suppressed
  /-- No rule applies. -/
  | noMatch
  | dispatched
  /-- The gateway did not take the action. -/
  | dispatchFailed
  deriving DecidableEq, Repr

namespace Outcome

def isDispatched (outcome : Outcome) : Bool :=
  outcome == dispatched

end Outcome

namespace Pipeline

/-- Hands an action to the gateway. -/
def dispatch (action : Action) : RelayM Outcome := do
  match ← RelayM.query (.deliver action) with
  | .ok () => return .dispatched
  | .error _ => return .dispatchFailed

/-- Passes an event through the deduplicator, then to the first rule that applies, then to the gateway.
    The key is recorded even if no rule applies or the gateway fails. -/
def process (event : Event) (rules : List Rule) : RelayM Outcome := do
  if ← RelayM.allow event.dedupKey then
    match Rule.findFirst? rules event.kind event.facts with
    | some rule => dispatch (rule.actionFor event)
    | none => return .noMatch
  else return .suppressed

end Pipeline

end EventRelay
