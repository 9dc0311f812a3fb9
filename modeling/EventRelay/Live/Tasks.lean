import EventRelay.Live.Surroundings
import EventRelay.Timetable
import Std.Sync.CancellationToken

namespace EventRelay.Live

open Std.Async

/-- Waits until a time or for the order to stop, and tells whether there is one. -/
def waitUntil (time : Nat) (stop : Std.CancellationToken) : Async Bool := do
  if ← stop.isCancelled then return true
  let rest := time - (← IO.monoMsNow)
  let _ ← Selectable.one #[
    .case stop.selector fun _ => return (),
    .case (← Selector.sleep (.ofNat rest)) fun _ => return ()]
  stop.isCancelled

/-- Repeats some work at the times of a timetable, until the order to stop. -/
def repeatOn {σ : Type} (table : Timetable) (stop : Std.CancellationToken) (work : σ → Async σ)
    (first : σ) : Async Unit := do
  let mut state := first
  let mut due := (← IO.monoMsNow) + table.interval
  repeat
    if ← waitUntil due stop then break
    let start ← IO.monoMsNow
    state ← work state
    due := table.nextDue due start

/-- Keeps the deduplicator small. -/
def sweep (surroundings : Surroundings) (stop : Std.CancellationToken) : Async Unit := do
  match Timetable.ofMilliseconds? (← surroundings.dedup.get).sweepInterval with
  | some table =>
    repeatOn table stop (fun () => do
      let _ ← RelayM.sweep.run surroundings.perform) ()
  | none => return ()

/-- Reads a mailbox from where it stopped. -/
def poll (surroundings : Surroundings) (plan : PollerPlan) (stop : Std.CancellationToken) :
    Async Unit := do
  let surroundings := surroundings.withMailbox plan
  match Timetable.ofMilliseconds? (1000 * plan.interval.toNat) with
  | some table =>
    let poller ← plan.poller.start.run surroundings.perform
    repeatOn table stop (fun poller => do
      let (_, poller) ← poller.tick.run surroundings.perform
      return poller) poller
  | none => return ()

end EventRelay.Live
