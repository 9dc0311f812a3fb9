import EventRelay.Gateway.Client
import EventRelay.Proofs.Choice
import EventRelay.Proofs.Http.Call
import EventRelay.Proofs.Rule.WrittenAction
import EventRelay.Proofs.Script.Trace
import EventRelay.Proofs.Time.Calendar
import EventRelay.Rule.Resolution

namespace EventRelay

open Http Json Script

/-- What stands in a value behind names that lead into it. -/
def Json.Value.at? (value : Value) : List String → Option Value
  | [] => some value
  | name :: path =>
    match value with
    | .object members => (members.lookup name).bind (at? · path)
    | _ => none

namespace WrittenAction

/-- The text that an action makes of an event. -/
def textFor (action : WrittenAction) (event : Event) : String :=
  Template.render
    (firstSet "" [action.template, (action.notify?.map (·.template)).getD "",
      event.source.defaultTemplate]) event.fields

/-- Who runs an action, when another agent runs those without one. -/
def agentFor (action : WrittenAction) (default : String) : String :=
  firstSet "" [action.agent?.getD "", (action.notify?.bind (·.agent?)).getD "", default]

/-- An order for a job that does for an event what an action says. -/
structure Orders (action : WrittenAction) (event : Event) (settings : GatewaySettings) (now : Nat)
    (order : Value) : Prop where
  plain : action.notify? = none → order.at? ["args", "job", "payload", "message"] =
    some (.string (action.textFor event))
  wrapped : ∀ notify, action.notify? = some notify →
    order.at? ["args", "job", "payload", "message"] =
      some (.string ("Send this exact message (target=" ++ notify.target ++ ", channel=" ++
        notify.channel ++ "). Just send it, no extra text:\n\n" ++ action.textFor event))
  sessionKey : order.at? ["sessionKey"] =
    some (.string ("agent:" ++ action.agentFor settings.agent ++ ":main"))
  agentId : order.at? ["args", "job", "agentId"] =
    if action.agentFor settings.agent = "" then none
    else some (.string (action.agentFor settings.agent))
  timeout : order.at? ["args", "job", "payload", "timeoutSeconds"] =
    some (.natural
      (firstSet 0 [action.timeout?.getD 0, event.source.defaultTiming.timeout]).toNat)
  once : order.at? ["args", "job", "schedule", "kind"] = some (.string "at")
  time : ∃ text, order.at? ["args", "job", "schedule", "at"] = some (.string text) ∧
    Time.Denotes text
      (now + (firstSet 0 [action.delay?.getD 0, event.source.defaultTiming.delay]).toNat)

theorem templateFor_resolve (action : WrittenAction) (source : Source) :
    action.resolve.templateFor source =
      firstSet "" [action.template, (action.notify?.map (·.template)).getD "",
        source.defaultTemplate] := by
  have hwritten : action.resolve.template =
      firstSet "" [action.template, (action.notify?.map (·.template)).getD ""] := by
    rw [← getD_nonempty?, firstSet_singleton, resolve]
  calc
    _ = (nonempty? action.resolve.template).getD (firstSet "" [source.defaultTemplate]) := by
      rw [firstSet_singleton, ActionSpec.templateFor]
    _ = _ := by rw [getD_nonempty?, hwritten, firstSet_firstSet_cons, List.cons_append,
      List.cons_append, List.nil_append]

theorem agentFor_resolve (action : WrittenAction) (default : String) :
    ((action.resolve.agent?.bind nonempty?).bind nonempty?).getD default =
      action.agentFor default := by
  -- An agent that is left after reading is not empty, so the two later filters keep it.
  have hchosen : action.resolve.agent?.bind nonempty? = action.resolve.agent? := by
    rw [resolve]
    dsimp only
    cases hagent : action.agent?.bind nonempty? with
    | none => rw [Option.none_or, bind_nonempty?_bind_nonempty?]
    | some agent => rw [Option.some_or, ← hagent, bind_nonempty?_bind_nonempty?]
  rw [hchosen, hchosen, resolve, Option.getD_or, agentFor, ← getD_bind_nonempty?,
    ← getD_bind_nonempty?, firstSet_singleton]

theorem messageFor_of_resolve (action : WrittenAction) {rule : Rule}
    (hrule : rule.action = action.resolve) (event : Event) :
    rule.messageFor event =
      match action.notify? with
      | some notify => (NotifyTarget.mk notify.target notify.channel).wrap (action.textFor event)
      | none => action.textFor event := by
  rw [Rule.messageFor, hrule, templateFor_resolve]
  cases hnotify : action.notify? with
  | none => simp [resolve, hnotify, textFor]
  | some notify => simp [resolve, hnotify, textFor]

theorem orders_actionFor (action : WrittenAction) {rule : Rule} (hrule : rule.action = action.resolve)
    (event : Event) (client : GatewayClient) (now : Nat) :
    action.Orders event client.settings now (client.order (rule.actionFor event) now) := by
  have hmessage : (client.order (rule.actionFor event) now).at? ["args", "job", "payload", "message"] =
      some (.string (rule.messageFor event)) := rfl
  have hagent : client.agentFor (rule.actionFor event) = action.agentFor client.settings.agent := by
    rw [← agentFor_resolve, ← hrule]
    rfl
  have htiming : (rule.actionFor event).timing =
      ⟨firstSet 0 [action.timeout?.getD 0, event.source.defaultTiming.timeout],
        firstSet 0 [action.delay?.getD 0, event.source.defaultTiming.delay]⟩ := by
    rw [← getD_bind_positive?, ← getD_bind_positive?]
    change rule.action.timing event.source = _
    rw [hrule]
    rfl
  rw [messageFor_of_resolve action hrule] at hmessage
  constructor
  case plain =>
    intro hnone
    rw [hmessage, hnone]
  case wrapped =>
    intro notify hnotify
    rw [hmessage, hnotify]
    rfl
  case sessionKey =>
    rw [← hagent]
    rfl
  case agentId =>
    rw [← hagent, GatewayClient.order, GatewayClient.job, GatewayClient.agentMember]
    split
    · rfl
    · rfl
  case timeout =>
    change some (Value.natural (rule.actionFor event).timing.timeout.toNat) = _
    rw [htiming]
  case once => rfl
  case time =>
    refine ⟨Time.timestamp (now + (rule.actionFor event).timing.delay.toNat), rfl, ?_⟩
    rw [htiming, Time.denotes_iff]

end WrittenAction

namespace GatewayClient

/-- How a client delivers an action: with one call, for which it has read the clock just before. -/
structure Delivers (client : GatewayClient) (action : WrittenAction) (event : Event)
    (work : ClientM (Except GatewayError Unit)) : Prop where
  sent : Call.IsHeaderText client.settings.token →
    ∃ (order : Nat → Value) (next : Except String Reply → ClientM (Except GatewayError Unit)),
      (∀ now, action.Orders event client.settings now (order now)) ∧
        work = .ask .now fun now => .ask (.send ⟨"POST", client.settings.url ++ "/tools/invoke", [],
          client.settings.token, some (order now)⟩) next
  /-- A token that cannot stand in a header keeps the call from being made. -/
  unsent : ¬ Call.IsHeaderText client.settings.token →
    ∃ error, work = .ask .now fun _ => .done (.error error)

/-- What the end of a call says about its action. -/
def afterCall : Except String Reply → Except GatewayError Unit
  | .ok reply => accepts reply
  | .error reason => .error (.request reason)

theorem deliver_eq {client : GatewayClient} (hurl : client.settings.url ≠ "")
    (htoken : client.settings.token ≠ "") (action : Action) :
    client.deliver action = .ask .now fun now => (client.call action now).send.bind
      fun ended => .done (afterCall ended) := by
  have hconfigured : client.settings.isConfigured = true := by
    simp [GatewaySettings.isConfigured, hurl, htoken]
  rw [deliver, if_pos hconfigured]
  simp only [ClientM.now, Script.query, bind_eq_bind, ask_bind, done_bind]
  congr
  funext now
  congr
  funext reply
  cases reply <;> rfl

theorem deliver_delivers {client : GatewayClient} (hurl : client.settings.url ≠ "")
    (htoken : client.settings.token ≠ "") (action : WrittenAction) {rule : Rule}
    (hrule : rule.action = action.resolve) (event : Event) :
    client.Delivers action event (client.deliver (rule.actionFor event)) where
  sent := by
    intro hheader
    refine ⟨client.order (rule.actionFor event), fun ended => .done (afterCall ended),
      action.orders_actionFor hrule event client, ?_⟩
    rw [deliver_eq hurl htoken]
    congr
    funext now
    exact congrArg (Script.bind · _) (Call.send_of_isHeaderText hheader)
  unsent := by
    intro hheader
    refine ⟨.request "builder error", ?_⟩
    rw [deliver_eq hurl htoken]
    congr
    funext now
    exact congrArg (Script.bind · _) (Call.send_of_not_isHeaderText hheader)

/-- What an action leaves unset is taken from its notification, then from the source of the event or the
settings of the gateway. -/
theorem delivers_of_decoder {node : Node} {spec : ActionSpec}
    (hread : ActionSpec.decoder node = .ok spec) :
    ∃ action : WrittenAction, action.IsSpelled node ∧
      ∀ rule : Rule, rule.action = spec → ∀ (event : Event) (client : GatewayClient),
        client.settings.url ≠ "" → client.settings.token ≠ "" →
          client.Delivers action event (client.deliver (rule.actionFor event)) := by
  rw [ActionSpec.decoder] at hread
  obtain ⟨action, haction, rfl⟩ := map_eq_ok.1 hread
  refine ⟨action, WrittenAction.isSpelled_of_decoder haction, ?_⟩
  intro rule hrule event client hurl htoken
  exact deliver_delivers hurl htoken action hrule event

/-- An action under older names, with a timeout and an agent that are left unset. -/
def aliasedAction : Node :=
  (Document.read (Value.object
    [("message_template", .string ""), ("delay", .natural 7), ("timeout", .natural 0),
     ("agent_id", .string ""), ("notify", .object
       [("template", .string "Hi"), ("target", .string "+1"), ("agent_id", .string "ops")])]).bytes).root

/-- The action is ordered seven seconds before the end of a leap day. -/
theorem delivers_of_decoder_aliased : ∃ (spec : ActionSpec) (order : Nat → Value)
    (next : Except String Reply → ClientM (Except GatewayError Unit)),
    let event : Event := ⟨.mail, "message_added", "18c", "me", "", .empty, .empty⟩
    let rule : Rule := ⟨"", "message_added", .always, .anything, spec⟩
    let client : GatewayClient := .new ⟨"http://gateway/", "t", "main", "m"⟩
    ActionSpec.decoder aliasedAction = .ok spec ∧
      client.deliver (rule.actionFor event) = (.ask .now fun now =>
        .ask (.send ⟨"POST", "http://gateway/tools/invoke", [], "t", some (order now)⟩) next) ∧
      let job := order 1709251193
      job.at? ["args", "job", "payload", "message"] = some (.string
          "Send this exact message (target=+1, channel=). Just send it, no extra text:\n\nHi") ∧
        job.at? ["sessionKey"] = some (.string "agent:ops:main") ∧
        job.at? ["args", "job", "agentId"] = some (.string "ops") ∧
        job.at? ["args", "job", "payload", "timeoutSeconds"] = some (.natural 30) ∧
        job.at? ["args", "job", "schedule", "at"] = some (.string "2024-03-01T00:00:00Z") := by
  let written : WrittenAction := ⟨"", some 0, some 7, some "", some ⟨"+1", "", "Hi", some "ops"⟩⟩
  let event : Event := ⟨.mail, "message_added", "18c", "me", "", .empty, .empty⟩
  have hwritten : WrittenAction.decoder aliasedAction = .ok written := by decide +kernel
  have hread : ActionSpec.decoder aliasedAction = .ok written.resolve :=
    map_eq_ok.2 ⟨written, hwritten, rfl⟩
  have hsettings : (GatewayClient.new ⟨"http://gateway/", "t", "main", "m"⟩).settings =
      ⟨"http://gateway", "t", "main", "m"⟩ := by decide +kernel
  obtain ⟨action, hspelled, hdelivers⟩ := delivers_of_decoder hread
  obtain rfl := hspelled.unique (WrittenAction.isSpelled_of_decoder hwritten)
  have hdelivers := hdelivers ⟨"", "message_added", .always, .anything, written.resolve⟩ rfl event
    (.new ⟨"http://gateway/", "t", "main", "m"⟩) (by rw [hsettings]; decide) (by rw [hsettings]; decide)
  obtain ⟨order, next, horders, hwork⟩ := hdelivers.sent (by rw [hsettings]; decide)
  have hjob := horders 1709251193
  obtain ⟨text, htime, hdenotes⟩ := hjob.time
  have htext : written.textFor event = "Hi" := by decide +kernel
  have hagent : written.agentFor "main" = "ops" := by decide
  have hfires : Time.timestamp (1709251193 + 7) = "2024-03-01T00:00:00Z" := by decide +kernel
  rw [hsettings] at hjob
  refine ⟨written.resolve, order, next, hread, hwork, ?_, ?_, ?_, ?_, ?_⟩
  · rw [hjob.wrapped _ rfl, htext]
    rfl
  · rw [hjob.sessionKey, hagent]
    rfl
  · rw [hjob.agentId, hagent]
    rfl
  · exact hjob.timeout
  · rw [htime, Time.denotes_iff.1 hdenotes, ← hfires]
    rfl

end GatewayClient

end EventRelay
