import EventRelay.Action
import EventRelay.Cursor.Error
import EventRelay.Deduplicator
import EventRelay.Gateway.Error
import EventRelay.Mailbox.History
import EventRelay.Script

namespace EventRelay

/-- What the relay asks of its surroundings. -/
inductive Effect
  /-- Reads the clock. -/
  | now
  /-- Asks the deduplicator, which all of the relay shares, at a time that was read before. -/
  | allow (key : String) (time : Nat)
  /-- Sweeps the deduplicator at a time that was read before, and counts what it forgot. -/
  | sweep (time : Nat)
  | deliver (action : Action)
  | loadCursor (account : String)
  | saveCursor (account : String) (position : UInt64)
  /-- Asks a mailbox for its current position. -/
  | highWater (account : String)
  | historySince (account : String) (position : UInt64)
  deriving DecidableEq, Repr

abbrev Effect.Answer : Effect → Type
  | now => Nat
  | allow _ _ => Bool
  | sweep _ => Nat
  | deliver _ => Except GatewayError Unit
  | loadCursor _ => Except CursorError (Option UInt64)
  | saveCursor _ _ => Except CursorError Unit
  | highWater _ => Except HistoryError UInt64
  | historySince _ _ => Except HistoryError HistoryPage

/-- The work of the relay. -/
abbrev RelayM (α : Type) := Script Effect Effect.Answer α

namespace RelayM

/-- Asks one question. -/
def query (effect : Effect) : RelayM effect.Answer :=
  Script.query effect

/-- Lets a key through or holds it back. The clock is read before the deduplicator is asked. -/
def allow (key : String) : RelayM Bool := do
  let now ← query .now
  query (.allow key now)

/-- Forgets the expired entries of the deduplicator. -/
def sweep : RelayM Nat := do
  let now ← query .now
  query (.sweep now)

end RelayM

end EventRelay
