import EventRelay.Failure
import EventRelay.Gateway.Client
import EventRelay.Live.Files
import EventRelay.Live.Log
import EventRelay.Mailbox.Client
import EventRelay.Relay

namespace EventRelay.Live

open Std.Async

/-- What the relay meets when it runs. The deduplicator is shared by all of its tasks. -/
structure Surroundings where
  dedup : IO.Ref Deduplicator
  gateway : GatewayClient
  store : CursorStore
  log : Log
  /-- The mailbox that the task reads, if it reads one. -/
  mailbox? : Option MailboxClient

namespace Surroundings

def gatewayLimit : Std.Time.Millisecond.Offset := 10000

def mailboxLimit : Std.Time.Millisecond.Offset := 30000

def new (settings : Settings) : IO Surroundings :=
  return {
    dedup := ← IO.mkRef (.new Deduplicator.defaultTtl)
    gateway := .new settings.gateway
    store := ⟨settings.stateDir⟩
    log := ⟨settings.logDir?⟩
    mailbox? := none
  }

/-- The surroundings of a poller. -/
def withMailbox (surroundings : Surroundings) (plan : PollerPlan) : Surroundings :=
  { surroundings with
    mailbox? := some (.new plan.account.email plan.token MailboxClient.defaultBaseUrl) }

/-- Reports a failure, if it is one. -/
def report {ε α : Type} (surroundings : Surroundings) (failure : ε → Failure)
    (result : Except ε α) : Async (Except ε α) := do
  match result with
  | .error error => surroundings.log.write (failure error).message
  | .ok _ => pure ()
  return result

/-- Asks the mailbox of the task, by a client and with a way to make its calls. -/
def readMailbox {α : Type} (surroundings : Surroundings)
    (read : MailboxClient → ((effect : Http.ClientEffect) → Async effect.Answer) →
      Async (Except HistoryError α)) : Async (Except HistoryError α) := do
  match surroundings.mailbox? with
  | some client => surroundings.report .history (← read client (performCall mailboxLimit))
  | none => return .error (.request "mailbox" "the task reads no mailbox")

/-- Does what the relay asks. -/
def perform (surroundings : Surroundings) : (effect : Effect) → Async effect.Answer
  | .now => IO.monoMsNow
  | .allow key time => surroundings.dedup.modifyGet (·.allow key time)
  | .sweep time => surroundings.dedup.modifyGet (·.sweep time)
  | .deliver action => do
    surroundings.report .gateway
      (← (surroundings.gateway.deliver action).run (performCall gatewayLimit))
  | .loadCursor account => do
    surroundings.report .cursor
      (← runIn surroundings.store.directory (surroundings.store.load account))
  | .saveCursor account position => do
    surroundings.report .cursor
      (← runIn surroundings.store.directory (surroundings.store.save account position))
  | .highWater _ => surroundings.readMailbox fun client call => client.highWater.run call
  | .historySince _ position =>
    surroundings.readMailbox fun client call => client.historySince call position

end Surroundings

end EventRelay.Live
