import EventRelay.Settings.Environment
import EventRelay.Settings.Error
import EventRelay.Text.Blank
import EventRelay.Text.Decimal
import EventRelay.Text.Split

namespace EventRelay

open Text

/-- Which results of continuous integration make events. -/
inductive NotifyMode
  | all
  /-- Successful results are passed over. -/
  | failures
  deriving DecidableEq, Repr

/-- Case and surrounding blanks of a mode do not count, and a blank text is the default. -/
def NotifyMode.parse (text : String) : Except ConfigError NotifyMode :=
  let mode := String.ofList ((trim text.toList).map asciiLower)
  if mode = "" ∨ mode = "all" then .ok .all
  else if mode = "failures" then .ok .failures
  else .error (.invalidValue "GITHUB_NOTIFY_MODE" ("expected 'all' or 'failures', got '" ++ mode ++ "'"))

/-- Where jobs are sent, and who runs them unless a rule says so. -/
structure GatewaySettings where
  url : String
  token : String
  agent : String
  model : String
  deriving DecidableEq, Repr

def GatewaySettings.isConfigured (gateway : GatewaySettings) : Bool :=
  gateway.url != "" && gateway.token != ""

/-- The settings of the process. An empty secret or token switches its check off. -/
structure Settings where
  port : UInt16
  stateDir : String
  rulesPath : String
  logDir? : Option String
  /-- Seconds between two polls of a mailbox that sets no interval. -/
  pollInterval : UInt64
  gateway : GatewaySettings
  trelloSecret : String
  trelloCallbackUrl? : Option String
  githubSecret : String
  notifyMode : NotifyMode
  internalToken : String
  deriving DecidableEq, Repr

namespace Settings

def defaultPollInterval : UInt64 := 60

/-- The value of a variable, unless it is blank. -/
def get? (environment : Environment) (name : String) : Option String :=
  (environment name).filter fun value => trim value.toList ≠ []

def readPort (environment : Environment) : Except ConfigError UInt16 :=
  match get? environment "RELAY_PORT" with
  | none => .ok 8080
  | some text =>
    match readNat maxUInt16 (trim text.toList) with
    | .ok port => .ok port.toUInt16
    | .error error => .error (.invalidValue "RELAY_PORT" error.message)

/-- An interval that is no positive number counts as unset. -/
def readPollInterval (environment : Environment) : UInt64 :=
  match (get? environment "RELAY_POLL_INTERVAL_SECS").map fun text =>
      readNat maxUInt64 (trim text.toList) with
  | some (.ok seconds) => if seconds = 0 then defaultPollInterval else seconds.toUInt64
  | _ => defaultPollInterval

def readNotifyMode (environment : Environment) : Except ConfigError NotifyMode :=
  match get? environment "GITHUB_NOTIFY_MODE" with
  | none => .ok .all
  | some text => NotifyMode.parse text

def readGateway (environment : Environment) : GatewaySettings where
  url := String.ofList (dropTrailing '/' ((get? environment "GATEWAY_URL").getD "").toList)
  token := (get? environment "GATEWAY_TOKEN").getD ""
  agent := (get? environment "GATEWAY_AGENT_ID").getD "main"
  model := (get? environment "GATEWAY_MODEL").getD "anthropic/claude-sonnet-4-6"

/-- The settings that the variables make. The port is checked before the notify mode; nothing else can
    fail. -/
def read (environment : Environment) : Except ConfigError Settings := do
  let port ← readPort environment
  let notifyMode ← readNotifyMode environment
  return {
    port
    stateDir := (get? environment "RELAY_STATE_DIR").getD "data"
    rulesPath := (get? environment "RELAY_RULES_PATH").getD "relay.json"
    logDir? := get? environment "RELAY_LOG_DIR"
    pollInterval := readPollInterval environment
    gateway := readGateway environment
    trelloSecret := (get? environment "TRELLO_SECRET").getD ""
    trelloCallbackUrl? := get? environment "TRELLO_CALLBACK_URL"
    githubSecret := (get? environment "GITHUB_SECRET").getD ""
    notifyMode
    internalToken := (get? environment "RELAY_INTERNAL_TOKEN").getD ""
  }

end Settings

end EventRelay
