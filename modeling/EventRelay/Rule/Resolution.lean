import EventRelay.Rule
import EventRelay.Template

namespace EventRelay

namespace NotifyTarget

/-- The order to pass a text on to the target as it stands. -/
def wrap (target : NotifyTarget) (text : String) : String :=
  "Send this exact message (target=" ++ target.target ++ ", channel=" ++ target.channel ++
    "). Just send it, no extra text:\n\n" ++ text

end NotifyTarget

namespace ActionSpec

/-- The template of the action for events of a source. -/
def templateFor (spec : ActionSpec) (source : Source) : String :=
  (nonempty? spec.template).getD source.defaultTemplate

end ActionSpec

/-- The name of an event's job. An event without a label goes by its kind and subject. -/
def Event.jobName (event : Event) : String :=
  (nonempty? event.label).getD (event.kind ++ ": " ++ event.subject)

namespace Rule

/-- The message that a rule makes of an event. -/
def messageFor (rule : Rule) (event : Event) : String :=
  let text := Template.render (rule.action.templateFor event.source) event.fields
  match rule.action.notify? with
  | some target => target.wrap text
  | none => text

/-- The action that a rule makes of an event, with nothing left open but the gateway's default
    agent. -/
def actionFor (rule : Rule) (event : Event) : Action where
  name := event.jobName
  message := rule.messageFor event
  agent? := rule.action.agent?.bind nonempty?
  timing := rule.action.timing event.source

end Rule

end EventRelay
