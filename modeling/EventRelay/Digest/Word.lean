namespace EventRelay.Digest

/-- Rotates a word to the left by fewer than 32 bits. -/
def rotateLeft (x n : UInt32) : UInt32 :=
  (x <<< n) ||| (x >>> (32 - n))

def rotateRight (x n : UInt32) : UInt32 :=
  (x >>> n) ||| (x <<< (32 - n))

/-- The word that four bytes form, most significant byte first. -/
def wordOfBytes (a b c d : UInt8) : UInt32 :=
  (a.toUInt32 <<< 24) ||| (b.toUInt32 <<< 16) ||| (c.toUInt32 <<< 8) ||| d.toUInt32

def wordBytes (x : UInt32) : List UInt8 :=
  [(x >>> 24).toUInt8, (x >>> 16).toUInt8, (x >>> 8).toUInt8, x.toUInt8]

/-- The words of a sequence of bytes; up to three bytes at the end are left over. -/
def words : List UInt8 → List UInt32
  | a :: b :: c :: d :: rest => wordOfBytes a b c d :: words rest
  | _ => []

/-- The 64-bit length of a message in bits, most significant byte first. -/
def lengthBytes (length : Nat) : List UInt8 :=
  let bits := 8 * length
  [56, 48, 40, 32, 24, 16, 8, 0].map fun shift => (bits >>> shift).toUInt8

/-- What is put after a message so that whole blocks of 64 bytes result: a one bit, zeros, and the
    length. -/
def padding (length : Nat) : List UInt8 :=
  0x80 :: List.replicate ((119 - length % 64) % 64) 0 ++ lengthBytes length

/-- Feeds the words of a message to a hash, sixteen at a time. Fuel is one more than the number of
    blocks at most. -/
def foldBlocks {σ : Type} (step : σ → List UInt32 → σ) : Nat → σ → List UInt8 → σ
  | 0, state, _ => state
  | _, state, [] => state
  | fuel + 1, state, message =>
    foldBlocks step fuel (step state (words (message.take 64))) (message.drop 64)

/-- Runs a hash over a message and its padding. -/
def absorb {σ : Type} (step : σ → List UInt32 → σ) (initial : σ) (message : List UInt8) : σ :=
  let length := message.length
  foldBlocks step (length / 64 + 2) initial (message ++ padding length)

end EventRelay.Digest
