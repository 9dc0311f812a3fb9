import EventRelay.Digest.Sha1
import EventRelay.Digest.Sha256

namespace EventRelay.Digest

/-- The block size of the hashes used here, in bytes. -/
def blockSize : Nat := 64

/-- A key filled up with zeros to a block; a longer key is hashed first. -/
def blockKey (hash : List UInt8 → List UInt8) (key : List UInt8) : List UInt8 :=
  let key := if blockSize < key.length then hash key else key
  key ++ List.replicate (blockSize - key.length) 0

/-- The keyed digest of a message by the HMAC construction. -/
def hmac (hash : List UInt8 → List UInt8) (key message : List UInt8) : List UInt8 :=
  let key := blockKey hash key
  let inner := hash (key.map (· ^^^ 0x36) ++ message)
  hash (key.map (· ^^^ 0x5C) ++ inner)

def hmacSha1 (key message : List UInt8) : List UInt8 :=
  hmac Sha1.digest key message

def hmacSha256 (key message : List UInt8) : List UInt8 :=
  hmac Sha256.digest key message

end EventRelay.Digest
