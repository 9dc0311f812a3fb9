import EventRelay.Json.Decoder
import EventRelay.Rule

namespace EventRelay

open Json Decoder

def MailMatch.decoder : Decoder MailMatch :=
  record
    [.withDefault ["from"] (list text) fun senders required => { required with senders },
     .withDefault ["labels"] (list text) fun labels required => { required with labels }]
    .anything

def WrittenNotify.decoder : Decoder WrittenNotify :=
  record
    [.withDefault ["target"] text fun target notify => { notify with target },
     .withDefault ["channel"] text fun channel notify => { notify with channel },
     .withDefault ["template"] text fun template notify => { notify with template },
     .withDefault ["agent_id"] (optional text) fun agent? notify => { notify with agent? }]
    ⟨"", "", "", none⟩

/-- Three of the fields have a second, older name. -/
def WrittenAction.decoder : Decoder WrittenAction :=
  record
    [.withDefault ["template", "message_template"] text
       fun template action => { action with template },
     .withDefault ["timeout_secs", "timeout"] (optional uint32)
       fun timeout? action => { action with timeout? },
     .withDefault ["delay_secs", "delay"] (optional uint32) fun delay? action => { action with delay? },
     .withDefault ["agent_id"] (optional text) fun agent? action => { action with agent? },
     .withDefault ["notify"] (optional WrittenNotify.decoder)
       fun notify? action => { action with notify? }]
    ⟨"", none, none, none, none⟩

def ActionSpec.decoder : Decoder ActionSpec := fun node =>
  (WrittenAction.decoder node).map WrittenAction.resolve

def Condition.decoder : Decoder Condition := fun node =>
  (text node).map Condition.parse

/-- Only the kind of event must be given. -/
def Rule.decoder : Decoder Rule :=
  record
    [.withDefault ["name"] text fun name rule => { rule with name },
     .needed "event" text fun eventKind rule => { rule with eventKind },
     .withDefault ["condition"] Condition.decoder fun condition rule => { rule with condition },
     .withDefault ["match"] MailMatch.decoder fun mailMatch rule => { rule with mailMatch },
     .withDefault ["action"] ActionSpec.decoder fun action rule => { rule with action }]
    ⟨"", "", .always, .anything, .unset⟩

end EventRelay
