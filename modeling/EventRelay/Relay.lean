import EventRelay.Http.Server
import EventRelay.Mailbox.Poller
import EventRelay.RulesFile

namespace EventRelay

/-- The poller of a mailbox, with what it needs to be run. -/
structure PollerPlan where
  account : MailAccount
  token : String
  /-- Seconds between two ticks. -/
  interval : UInt64
  deriving DecidableEq, Repr

namespace PollerPlan

def poller (plan : PollerPlan) : Poller :=
  .new plan.account.email plan.account.rules

end PollerPlan

/-- The whole of the relay, ready to run. -/
structure Relay where
  settings : Settings
  rules : RulesFile
  pollers : List PollerPlan
  deriving DecidableEq, Repr

namespace Relay

/-- The poller of an account. An account without an access token has none. -/
def planPoller? (environment : Environment) (settings : Settings) (mail : MailSection)
    (account : MailAccount) : Option PollerPlan := do
  let token ← (environment account.tokenVariable).bind nonempty?
  return ⟨account, token, mail.interval account settings.pollInterval⟩

def new (environment : Environment) (settings : Settings) (rules : RulesFile) : Relay where
  settings := settings
  rules := rules
  pollers := rules.mail.accounts.filterMap (planPoller? environment settings rules.mail)

def ingest (relay : Relay) : PushIngest :=
  .new relay.rules.board relay.rules.github relay.settings.notifyMode

def server (relay : Relay) : Http.Server :=
  .new relay.ingest relay.settings

end Relay

end EventRelay
