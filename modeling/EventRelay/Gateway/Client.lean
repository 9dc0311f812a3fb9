import EventRelay.Action
import EventRelay.Gateway.Error
import EventRelay.Http.Call
import EventRelay.Settings
import EventRelay.Time.Calendar

namespace EventRelay

/-- Sends actions to the gateway, each as a job that runs once. -/
structure GatewayClient where
  settings : GatewaySettings
  deriving DecidableEq, Repr

namespace GatewayClient

open Json Http

/-- Slashes at the end of the gateway's URL do not count. -/
def new (settings : GatewaySettings) : GatewayClient :=
  ⟨{ settings with url := String.ofList (Text.dropTrailing '/' settings.url.toList) }⟩

/-- Who runs an action: the agent that it names, or the default one. -/
def agentFor (client : GatewayClient) (action : Action) : String :=
  (action.agent?.bind nonempty?).getD client.settings.agent

/-- The member that names the agent, unless the agent is the empty text. -/
def agentMember (agent : String) : List (String × Value) :=
  if agent = "" then [] else [("agentId", .string agent)]

/-- A job that runs an action once, at a time. -/
def job (client : GatewayClient) (action : Action) (time : Nat) : Value :=
  .object
    ([("name", .string ("webhook: " ++ action.name)),
      ("sessionTarget", .string "isolated"),
      ("enabled", .bool true),
      ("schedule", .object [("kind", .string "at"), ("at", .string (Time.timestamp time))]),
      ("payload", .object
        [("kind", .string "agentTurn"),
         ("message", .string action.message),
         ("model", .string client.settings.model),
         ("timeoutSeconds", .natural action.timing.timeout.toNat)]),
      ("delivery", .object [("mode", .string "none")])] ++
      agentMember (client.agentFor action))

/-- The order to add a job for an action. `now` is the time of the order, in seconds. -/
def order (client : GatewayClient) (action : Action) (now : Nat) : Value :=
  .object
    [("tool", .string "cron"),
     ("args", .object
       [("action", .string "add"),
        ("job", client.job action (now + action.timing.delay.toNat))]),
     ("sessionKey", .string ("agent:" ++ client.agentFor action ++ ":main"))]

def call (client : GatewayClient) (action : Action) (now : Nat) : Call where
  method := "POST"
  url := client.settings.url ++ "/tools/invoke"
  query := []
  token := client.settings.token
  body? := some (client.order action now)

/-- What a reply means. Every status below 300 is a success. -/
def accepts (reply : Reply) : Except GatewayError Unit :=
  if reply.status < 300 then .ok () else .error (.status reply.status reply.text)

/-- Sends an action. Without a URL or a token there is no gateway, and the action is dropped. -/
def deliver (client : GatewayClient) (action : Action) : ClientM (Except GatewayError Unit) := do
  if client.settings.isConfigured then
    let now ← ClientM.now
    match ← (client.call action now).send with
    | .error reason => return .error (.request reason)
    | .ok reply => return accepts reply
  else return .ok ()

end GatewayClient

end EventRelay
