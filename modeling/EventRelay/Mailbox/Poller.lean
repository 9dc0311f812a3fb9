import EventRelay.Pipeline

namespace EventRelay

/-- How far a mailbox has been read. -/
inductive PollerState
  /-- There is no usable position yet. -/
  | uninitialized
  | tracking (position : UInt64)
  /-- The position expired, and the mailbox's current one is awaited. -/
  | resetting
  deriving DecidableEq, Repr

/-- What one tick achieved. -/
inductive TickOutcome
  | initialized (position : UInt64)
  | processed (entries : Nat) (position : UInt64)
  | reset (position : UInt64)
  /-- A fetch or a save failed; the next tick tries again. -/
  | skipped
  deriving DecidableEq, Repr

/-- Reads one mailbox from where it stopped, and passes each message to the pipeline. -/
structure Poller where
  account : String
  rules : List Rule
  state : PollerState
  deriving DecidableEq, Repr

namespace Poller

def new (account : String) (rules : List Rule) : Poller :=
  ⟨account, rules, .uninitialized⟩

/-- Saves the mailbox's current position, which skips all mail before it. -/
def saveHighWater (account : String) : RelayM (Option UInt64) := do
  match ← RelayM.query (.highWater account) with
  | .error _ => return none
  | .ok position =>
    match ← RelayM.query (.saveCursor account position) with
    | .error _ => return none
    | .ok () => return some position

/-- Goes on from the mailbox's current position. -/
def establish (poller : Poller) : RelayM (TickOutcome × Poller) := do
  match ← saveHighWater poller.account with
  | some position => return (.initialized position, { poller with state := .tracking position })
  | none => return (.skipped, poller)

/-- As `establish`, after a position that expired. -/
def reset (poller : Poller) : RelayM (TickOutcome × Poller) := do
  match ← saveHighWater poller.account with
  | some position => return (.reset position, { poller with state := .tracking position })
  | none => return (.skipped, { poller with state := .resetting })

/-- Passes messages to the pipeline, one after the other. What becomes of them makes no difference. -/
def processAll (poller : Poller) : List MailMessage → RelayM Unit
  | [] => return ()
  | message :: rest => do
    let _ ← Pipeline.process (message.toEvent poller.account) poller.rules
    poller.processAll rest

/-- Takes what arrived after a position, and saves the new position when all of it has been passed on.
    A position never moves backwards. -/
def pollFrom (poller : Poller) (position : UInt64) : RelayM (TickOutcome × Poller) := do
  match ← RelayM.query (.historySince poller.account position) with
  | .error error => if error.isExpired then poller.reset else return (.skipped, poller)
  | .ok page =>
    poller.processAll page.entries
    let next := max page.position position
    match ← RelayM.query (.saveCursor poller.account next) with
    | .error _ => return (.skipped, poller)
    | .ok () =>
      return (.processed page.entries.length next, { poller with state := .tracking next })

/-- Goes on from the saved position. A position that is missing, zero or unreadable is replaced by the
    mailbox's current one. -/
def start (poller : Poller) : RelayM Poller := do
  match ← RelayM.query (.loadCursor poller.account) with
  | .ok (some position) =>
    if 0 < position then return { poller with state := .tracking position }
    else return (← poller.establish).2
  | .ok none | .error _ => return (← poller.establish).2

/-- Advances by one step. -/
def tick (poller : Poller) : RelayM (TickOutcome × Poller) :=
  match poller.state with
  | .uninitialized => poller.establish
  | .resetting => poller.reset
  | .tracking position => poller.pollFrom position

end Poller

end EventRelay
