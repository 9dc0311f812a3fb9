import EventRelay.Http.Wire
import Std.Async
import Std.Time.DateTime

namespace EventRelay.Live

open Std.Async Http

/-- Connects to the first address of a host that takes the connection. -/
def connect (url : Url) : Async TCP.Socket.Client := do
  let mut failure := IO.userError "the host has no address"
  for address in ← DNS.getAddrInfo url.host (Text.natText url.port.toNat) do
    try
      let client ← TCP.Socket.Client.mk
      match address with
      | .v4 host => client.connect (.v4 ⟨host, url.port⟩)
      | .v6 host => client.connect (.v6 ⟨host, url.port⟩)
      return client
    catch error => failure := error
  throw failure

/-- All that comes until the other side closes the connection. -/
def receiveAll (client : TCP.Socket.Client) : Async ByteArray := do
  let mut received := ByteArray.empty
  repeat
    match ← client.recv? 65536 with
    | some bytes => received := received ++ bytes
    | none => break
  return received

def exchange (call : Call) (url : Url) : Async (Except String Reply) := do
  let client ← connect url
  client.send ⟨(call.bytes url).toArray⟩
  let received ← receiveAll client
  match Reply.parse? received.toList with
  | some reply => return .ok reply
  | none => return .error "the reply is not understood"

/-- Makes a call that may take that long. Connections are never encrypted. -/
def send (limit : Std.Time.Millisecond.Offset) (call : Call) : Async (Except String Reply) := do
  match Url.parse? call.url with
  | none => return .error "the URL is not understood"
  | some url =>
    if url.secure then return .error "encrypted connections are not available"
    else
      try
        Async.race (exchange call url) do
          sleep limit
          return .error "the call timed out"
      catch error => return .error (toString error)

def unixTime : IO Nat := do
  return (← Std.Time.Timestamp.now).toSecondsSinceUnixEpoch.toInt.toNat

/-- Does what a client asks, with a limit on the time of each call. -/
def performCall (limit : Std.Time.Millisecond.Offset) :
    (effect : ClientEffect) → Async effect.Answer
  | .now => unixTime
  | .send call => send limit call

end EventRelay.Live
