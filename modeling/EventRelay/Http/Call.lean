import EventRelay.Json.Value
import EventRelay.Script

namespace EventRelay.Http

/-- A call that the relay makes, with an access token. -/
structure Call where
  method : String
  url : String
  query : List (String × String)
  token : String
  body? : Option Json.Value

/-- What comes back from a call. -/
structure Reply where
  status : Nat
  body : List UInt8
  deriving DecidableEq, Repr

namespace Reply

/-- The body as text. Bytes that are no text are replaced, and a mark of the encoding in front is
    dropped. -/
def text (reply : Reply) : String :=
  match reply.body with
  | 0xEF :: 0xBB :: 0xBF :: rest => String.ofList (Text.Utf8.decodeLossy rest)
  | body => String.ofList (Text.Utf8.decodeLossy body)

end Reply

/-- What a client asks of its surroundings. -/
inductive ClientEffect
  /-- Reads the clock, in seconds from the beginning of 1970. -/
  | now
  | send (call : Call)

abbrev ClientEffect.Answer : ClientEffect → Type
  | now => Nat
  | send _ => Except String Reply

abbrev ClientM (α : Type) := Script ClientEffect ClientEffect.Answer α

namespace ClientM

def now : ClientM Nat :=
  Script.query ClientEffect.now

end ClientM

namespace Call

/-- Whether a text can be the value of a header. Line breaks and other controls cannot. -/
def isHeaderValue (text : String) : Bool :=
  (Text.Utf8.encode text.toList).all fun b => (0x20 ≤ b && b != 0x7F) || b == 0x09

/-- Makes a call. With a token that cannot stand in a header nothing is sent. -/
def send (call : Call) : ClientM (Except String Reply) :=
  if isHeaderValue call.token then Script.query (ClientEffect.send call)
  else return .error "builder error"

end Call

end EventRelay.Http
