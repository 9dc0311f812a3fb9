import EventRelay.Digest.Word

namespace EventRelay.Digest.Sha256

structure State where
  a : UInt32
  b : UInt32
  c : UInt32
  d : UInt32
  e : UInt32
  f : UInt32
  g : UInt32
  h : UInt32
  deriving DecidableEq, Repr

def initial : State :=
  ⟨0x6A09E667, 0xBB67AE85, 0x3C6EF372, 0xA54FF53A, 0x510E527F, 0x9B05688C, 0x1F83D9AB, 0x5BE0CD19⟩

def roundConstants : Array UInt32 :=
  #[0x428A2F98, 0x71374491, 0xB5C0FBCF, 0xE9B5DBA5, 0x3956C25B, 0x59F111F1, 0x923F82A4, 0xAB1C5ED5,
   0xD807AA98, 0x12835B01, 0x243185BE, 0x550C7DC3, 0x72BE5D74, 0x80DEB1FE, 0x9BDC06A7, 0xC19BF174,
   0xE49B69C1, 0xEFBE4786, 0x0FC19DC6, 0x240CA1CC, 0x2DE92C6F, 0x4A7484AA, 0x5CB0A9DC, 0x76F988DA,
   0x983E5152, 0xA831C66D, 0xB00327C8, 0xBF597FC7, 0xC6E00BF3, 0xD5A79147, 0x06CA6351, 0x14292967,
   0x27B70A85, 0x2E1B2138, 0x4D2C6DFC, 0x53380D13, 0x650A7354, 0x766A0ABB, 0x81C2C92E, 0x92722C85,
   0xA2BFE8A1, 0xA81A664B, 0xC24B8B70, 0xC76C51A3, 0xD192E819, 0xD6990624, 0xF40E3585, 0x106AA070,
   0x19A4C116, 0x1E376C08, 0x2748774C, 0x34B0BCB5, 0x391C0CB3, 0x4ED8AA4A, 0x5B9CCA4F, 0x682E6FF3,
   0x748F82EE, 0x78A5636F, 0x84C87814, 0x8CC70208, 0x90BEFFFA, 0xA4506CEB, 0xBEF9A3F7, 0xC67178F2]

/-- The word of a schedule that many places before its end. -/
def wordBefore (schedule : Array UInt32) (places : Nat) : UInt32 :=
  schedule.getD (schedule.size - places) 0

/-- Adds words to a schedule. -/
def extend : Nat → Array UInt32 → Array UInt32
  | 0, schedule => schedule
  | n + 1, schedule =>
    let near := wordBefore schedule 2
    let far := wordBefore schedule 15
    let sigma₁ := rotateRight near 17 ^^^ rotateRight near 19 ^^^ (near >>> 10)
    let sigma₀ := rotateRight far 7 ^^^ rotateRight far 18 ^^^ (far >>> 3)
    extend n (schedule.push (sigma₁ + wordBefore schedule 7 + sigma₀ + wordBefore schedule 16))

def round (s : State) (word constant : UInt32) : State :=
  let sum₁ := rotateRight s.e 6 ^^^ rotateRight s.e 11 ^^^ rotateRight s.e 25
  let choice := (s.e &&& s.f) ^^^ (~~~s.e &&& s.g)
  let t₁ := s.h + sum₁ + choice + constant + word
  let sum₀ := rotateRight s.a 2 ^^^ rotateRight s.a 13 ^^^ rotateRight s.a 22
  let majority := (s.a &&& s.b) ^^^ (s.a &&& s.c) ^^^ (s.b &&& s.c)
  ⟨t₁ + (sum₀ + majority), s.a, s.b, s.c, s.d + t₁, s.e, s.f, s.g⟩

/-- Runs that many rounds, from one of a given number on. -/
def rounds (schedule : Array UInt32) : Nat → Nat → State → State
  | 0, _, s => s
  | n + 1, number, s =>
    rounds schedule n (number + 1)
      (round s (schedule.getD number 0) (roundConstants.getD number 0))

def compress (s : State) (block : List UInt32) : State :=
  let t := rounds (extend 48 block.toArray) 64 0 s
  ⟨s.a + t.a, s.b + t.b, s.c + t.c, s.d + t.d, s.e + t.e, s.f + t.f, s.g + t.g, s.h + t.h⟩

def State.bytes (s : State) : List UInt8 :=
  wordBytes s.a ++ wordBytes s.b ++ wordBytes s.c ++ wordBytes s.d ++ wordBytes s.e ++
    wordBytes s.f ++ wordBytes s.g ++ wordBytes s.h

/-- The SHA-256 digest of a message, of thirty-two bytes. -/
def digest (message : List UInt8) : List UInt8 :=
  (absorb compress initial message).bytes

theorem length_digest (message : List UInt8) : (digest message).length = 32 :=
  rfl

end EventRelay.Digest.Sha256
