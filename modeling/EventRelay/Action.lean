import EventRelay.Event

namespace EventRelay

/-- Whom a rendered message is to be delivered to. -/
structure NotifyTarget where
  target : String
  channel : String
  deriving DecidableEq, Repr

/-- What a rule asks to be done. An empty template or a missing setting leaves the choice to the
    source of the event. -/
structure ActionSpec where
  template : String
  timeout? : Option UInt32
  delay? : Option UInt32
  agent? : Option String
  notify? : Option NotifyTarget
  deriving DecidableEq, Repr

/-- A job for the gateway. Without an agent the gateway's own default runs it. -/
structure Action where
  name : String
  message : String
  agent? : Option String
  timing : Timing
  deriving DecidableEq, Repr

/-- A text that counts as a choice only when it is not empty. -/
def nonempty? (text : String) : Option String :=
  if text = "" then none else some text

/-- A number of seconds that counts as a choice only when it is positive. -/
def positive? (seconds : UInt32) : Option UInt32 :=
  if seconds = 0 then none else some seconds

namespace ActionSpec

def unset : ActionSpec :=
  ⟨"", none, none, none, none⟩

/-- The timing of the action for events of a source. Zero counts as unset. -/
def timing (spec : ActionSpec) (source : Source) : Timing where
  timeout := (spec.timeout?.bind positive?).getD source.defaultTiming.timeout
  delay := (spec.delay?.bind positive?).getD source.defaultTiming.delay

end ActionSpec

/-- A notification as an operator writes it. Besides the target it may hold a template and an agent
    of its own. -/
structure WrittenNotify where
  target : String
  channel : String
  template : String
  agent? : Option String
  deriving DecidableEq, Repr

/-- An action as an operator writes it. -/
structure WrittenAction where
  template : String
  timeout? : Option UInt32
  delay? : Option UInt32
  agent? : Option String
  notify? : Option WrittenNotify
  deriving DecidableEq, Repr

namespace WrittenAction

/-- Template and agent are taken from the notification where the action itself leaves them empty. -/
def resolve (written : WrittenAction) : ActionSpec where
  template := (nonempty? written.template).getD ((written.notify?.map (·.template)).getD "")
  timeout? := written.timeout?
  delay? := written.delay?
  agent? := (written.agent?.bind nonempty?).or
    ((written.notify?.bind (·.agent?)).bind nonempty?)
  notify? := written.notify?.map fun notify => ⟨notify.target, notify.channel⟩

end WrittenAction

end EventRelay
