import EventRelay.Digest.Word

namespace EventRelay.Digest.Sha1

structure State where
  a : UInt32
  b : UInt32
  c : UInt32
  d : UInt32
  e : UInt32
  deriving DecidableEq, Repr

def initial : State :=
  ⟨0x67452301, 0xEFCDAB89, 0x98BADCFE, 0x10325476, 0xC3D2E1F0⟩

/-- The word of a schedule that many places before its end. -/
def wordBefore (schedule : Array UInt32) (places : Nat) : UInt32 :=
  schedule.getD (schedule.size - places) 0

/-- Adds words to a schedule. -/
def extend : Nat → Array UInt32 → Array UInt32
  | 0, schedule => schedule
  | n + 1, schedule =>
    let word := wordBefore schedule 3 ^^^ wordBefore schedule 8 ^^^ wordBefore schedule 14 ^^^
      wordBefore schedule 16
    extend n (schedule.push (rotateLeft word 1))

/-- The function and the constant of a round. -/
def mix (round : Nat) (b c d : UInt32) : UInt32 × UInt32 :=
  if round < 20 then ((b &&& c) ||| (~~~b &&& d), 0x5A827999)
  else if round < 40 then (b ^^^ c ^^^ d, 0x6ED9EBA1)
  else if round < 60 then ((b &&& c) ||| (b &&& d) ||| (c &&& d), 0x8F1BBCDC)
  else (b ^^^ c ^^^ d, 0xCA62C1D6)

def round (number : Nat) (s : State) (word : UInt32) : State :=
  let (f, k) := mix number s.b s.c s.d
  ⟨rotateLeft s.a 5 + f + s.e + k + word, s.a, rotateLeft s.b 30, s.c, s.d⟩

/-- Runs that many rounds, from one of a given number on. -/
def rounds (schedule : Array UInt32) : Nat → Nat → State → State
  | 0, _, s => s
  | n + 1, number, s => rounds schedule n (number + 1) (round number s (schedule.getD number 0))

def compress (s : State) (block : List UInt32) : State :=
  let t := rounds (extend 64 block.toArray) 80 0 s
  ⟨s.a + t.a, s.b + t.b, s.c + t.c, s.d + t.d, s.e + t.e⟩

def State.bytes (s : State) : List UInt8 :=
  wordBytes s.a ++ wordBytes s.b ++ wordBytes s.c ++ wordBytes s.d ++ wordBytes s.e

/-- The SHA-1 digest of a message, of twenty bytes. -/
def digest (message : List UInt8) : List UInt8 :=
  (absorb compress initial message).bytes

theorem length_digest (message : List UInt8) : (digest message).length = 20 :=
  rfl

end EventRelay.Digest.Sha1
