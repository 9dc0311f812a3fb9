namespace EventRelay

/-- Where a waiter for the stop signal stands. It subscribes to the notification before it looks at the
    flag, and waits only if the flag is not raised. -/
inductive WaiterState
  | starting
  /-- Subscribed, and about to look at the flag. `notified` tells whether a notification came since. -/
  | subscribed (notified : Bool)
  | waiting (notified : Bool)
  | returned
  deriving DecidableEq, Repr

/-- Where a caller that gives the stop signal stands. -/
inductive TriggerState
  | starting
  /-- The flag is raised, and the waiters are to be notified. -/
  | raised
  | completed
  deriving DecidableEq, Repr

/-- The stop signal of a task, with all who wait for it and all who give it. -/
structure Shutdown where
  flag : Bool
  waiters : List WaiterState
  triggers : List TriggerState
  deriving DecidableEq, Repr

/-- Who makes the next step. -/
inductive ShutdownStep
  | waiter (index : Nat)
  | trigger (index : Nat)
  deriving DecidableEq, Repr

namespace WaiterState

/-- A notification reaches whoever has subscribed, and nobody else. -/
def notify : WaiterState → WaiterState
  | subscribed _ => subscribed true
  | waiting _ => waiting true
  | state => state

/-- The next step of a waiter, if it can make one. A notification makes it start again. -/
def next? (flag : Bool) : WaiterState → Option WaiterState
  | starting => some (subscribed false)
  | subscribed notified => some (if flag then returned else waiting notified)
  | waiting true => some starting
  | waiting false => none
  | returned => none

end WaiterState

namespace Shutdown

/-- The signal before anybody gives it. -/
def new (waiters triggers : Nat) : Shutdown where
  flag := false
  waiters := List.replicate waiters .starting
  triggers := List.replicate triggers .starting

/-- The next step of a trigger: it raises the flag first and then notifies. -/
def stepTrigger? (signal : Shutdown) (index : Nat) : Option Shutdown :=
  match signal.triggers[index]? with
  | some .starting =>
    some { signal with flag := true, triggers := signal.triggers.set index .raised }
  | some .raised =>
    some { signal with
      waiters := signal.waiters.map WaiterState.notify
      triggers := signal.triggers.set index .completed }
  | _ => none

def stepWaiter? (signal : Shutdown) (index : Nat) : Option Shutdown := do
  let state ← signal.waiters[index]?
  let next ← state.next? signal.flag
  return { signal with waiters := signal.waiters.set index next }

/-- One step of somebody, if that one can make a step. -/
def step? (signal : Shutdown) : ShutdownStep → Option Shutdown
  | .waiter index => signal.stepWaiter? index
  | .trigger index => signal.stepTrigger? index

end Shutdown

end EventRelay
