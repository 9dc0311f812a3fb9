import EventRelay.Relay

namespace EventRelay

/-- Why the relay does not start. -/
inductive StartupError
  | invalidSettings (error : ConfigError)
  | invalidRules (path : String) (error : ConfigError)
  | portUnavailable (port : UInt16) (cause : String)
  deriving DecidableEq, Repr

namespace StartupError

/-- What was being done. -/
def context : StartupError → String
  | invalidSettings _ => "invalid configuration"
  | invalidRules path _ => "failed to load rules from " ++ path
  | portUnavailable port _ => "failed to bind port " ++ Text.natText port.toNat

def causes : StartupError → List String
  | invalidSettings error => error.messages
  | invalidRules _ error => error.messages
  | portUnavailable _ cause => [cause]

/-- Lines of text after the first are set in by some columns. -/
def indented (columns : Nat) (text : String) : String :=
  String.ofList (text.toList.flatMap fun c => if c = '\n' then c :: List.replicate columns ' ' else [c])

/-- Causes on lines of their own. Several are numbered. -/
def causeLines : List String → List String
  | [cause] => ["    " ++ indented 4 cause]
  | causes => causes.zipIdx.map fun (cause, n) => "    " ++ Text.natText n ++ ": " ++ indented 7 cause

/-- What is shown of the error. -/
def report (error : StartupError) : String :=
  "\n".intercalate
    (["Error: " ++ error.context, "", "Caused by:"] ++ causeLines error.causes)

end StartupError

namespace Relay

/-- Sets the relay up from the variables. `readFile` gives the content of a file or says why it has
    none; it is asked for the rules file only. -/
def prepare {m : Type → Type} [Monad m] (environment : Environment)
    (readFile : String → m (Except FileError (List UInt8))) : m (Except StartupError Relay) := do
  match Settings.read environment with
  | .error error => return .error (.invalidSettings error)
  | .ok settings =>
    let content ← readFile settings.rulesPath
    match RulesFile.load environment settings.rulesPath content with
    | .error error => return .error (.invalidRules settings.rulesPath error)
    | .ok rules => return .ok (.new environment settings rules)

def gatewayLine (gateway : GatewaySettings) : String :=
  if gateway.isConfigured then
    "   Gateway: " ++ gateway.url ++ " (agent " ++ gateway.agent ++ ")"
  else "   Gateway: not configured, actions will be skipped"

/-- What is shown before the relay begins to listen. -/
def banner (relay : Relay) : List String :=
  ["📮 Hook Relay v0.1.0",
   "   Listening: http://0.0.0.0:" ++ Text.natText relay.settings.port.toNat,
   "   Rules: " ++ relay.settings.rulesPath,
   "   State: " ++ relay.settings.stateDir,
   gatewayLine relay.settings.gateway,
   "   Gmail accounts: " ++ Text.natText relay.pollers.length]

end Relay

end EventRelay
