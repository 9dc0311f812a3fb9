namespace EventRelay

/-- When each key was last let through, and for how long that suppresses it. Times are readings of one
    clock, in milliseconds from an arbitrary start. -/
structure Deduplicator where
  ttl : Nat
  seen : List (String × Nat)
  deriving DecidableEq, Repr

namespace Deduplicator

/-- Five minutes. -/
def defaultTtl : Nat := 300000

def new (ttl : Nat) : Deduplicator :=
  ⟨ttl, []⟩

def lastSeen? (dedup : Deduplicator) (key : String) : Option Nat :=
  dedup.seen.lookup key

/-- Whether an entry of that time still suppresses. An entry from the future has age zero. -/
def isFresh (dedup : Deduplicator) (now last : Nat) : Bool :=
  now - last < dedup.ttl

def suppresses (dedup : Deduplicator) (key : String) (now : Nat) : Bool :=
  (dedup.lastSeen? key).any (dedup.isFresh now)

def record (dedup : Deduplicator) (key : String) (now : Nat) : Deduplicator :=
  { dedup with seen := (key, now) :: dedup.seen.filter (·.1 != key) }

/-- Lets a key through, and records it, unless it was let through less than the window ago. A key
    that is held back is not recorded again. -/
def allow (dedup : Deduplicator) (key : String) (now : Nat) : Bool × Deduplicator :=
  if dedup.suppresses key now then (false, dedup) else (true, dedup.record key now)

/-- Forgets the entries that suppress no more, and counts them. -/
def sweep (dedup : Deduplicator) (now : Nat) : Nat × Deduplicator :=
  let kept := dedup.seen.filter fun entry => dedup.isFresh now entry.2
  (dedup.seen.length - kept.length, { dedup with seen := kept })

def size (dedup : Deduplicator) : Nat :=
  dedup.seen.length

/-- The time between two sweeps in the background. -/
def sweepInterval (dedup : Deduplicator) : Nat :=
  2 * dedup.ttl

end Deduplicator

end EventRelay
