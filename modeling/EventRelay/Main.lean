import EventRelay.Live.Service
import EventRelay.Live.Tasks

namespace EventRelay

open Std.Async Live

/-- Waits until the process is interrupted. -/
def interruption : Async Unit := do
  let waiter ← Signal.Waiter.mk .sigint false
  let _ ← await (← waiter.wait)

/-- Runs until the process is interrupted. The pollers are told to stop when no call is open any more,
    and finish what they have begun. -/
def Relay.run (relay : Relay) : Async (Except StartupError Unit) := do
  let surroundings ← Surroundings.new relay.settings
  let stop ← Std.CancellationToken.new
  let sweeper ← async (sweep surroundings stop)
  let pollers ← relay.pollers.mapM fun plan => async (poll surroundings plan stop)
  match ← listen ⟨relay.server, surroundings⟩ relay.settings.port with
  | .error error => return .error error
  | .ok service =>
    surroundings.log.write "Relay server started"
    interruption
    surroundings.log.write "Shutdown requested"
    service.shutdownAndWait
    stop.cancel
    (sweeper :: pollers).forM await
    return .ok ()

/-- Starts the relay with what the variables and the rules file say. -/
def start : IO (Except StartupError Unit) := do
  let environment ← System.getEnv
  match ← Relay.prepare environment.get? readFile with
  | .error error => return .error error
  | .ok relay =>
    relay.banner.forM IO.eprintln
    relay.run.block

end EventRelay

def main : IO UInt32 := do
  match ← EventRelay.start with
  | .ok () => return 0
  | .error error =>
    IO.eprintln error.report
    return 1
