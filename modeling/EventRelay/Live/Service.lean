import EventRelay.Http.Server
import EventRelay.Live.Surroundings
import EventRelay.Startup
import Std.Http.Server

namespace EventRelay.Live

open Std.Async

/-- The body of a call. Of one that is too large it may be only a part, which is still too large. -/
def readBody (body : Std.Http.Body.Stream) : Async ByteArray := do
  let mut bytes := ByteArray.empty
  for chunk in body do
    bytes := bytes ++ chunk.data
    if Http.Server.maxWebhookBody < bytes.size then break
  return bytes

def readRequest (call : Std.Http.Request Std.Http.Body.Stream) : Async Http.Request := do
  let body ← readBody call.body
  return {
    method := toString call.line.method
    path := Http.targetPath (toString call.line.uri)
    headers := call.line.headers.toList.map fun (name, value) =>
      (name.value, value.value.toUTF8.toList)
    body := body.toList
  }

def withHeader (builder : Std.Http.Response.Builder) (name : String) (value? : Option String) :
    Std.Http.Response.Builder :=
  (value?.bind (builder.header? name)).getD builder

/-- The response as it is sent. -/
def writeResponse (response : Http.Response) : Async (Std.Http.Response Std.Http.Body.Full) :=
  let status := (Std.Http.Status.ofCode none response.status.toUInt16).getD .internalServerError
  let builder := withHeader (Std.Http.Response.withStatus status) "content-type" response.contentType?
  (withHeader builder "allow" response.allow?).fromBytes response.body.toUTF8

/-- The relay as it answers calls. -/
structure Service where
  server : Http.Server
  surroundings : Surroundings

def Service.answer (service : Service) (call : Std.Http.Request Std.Http.Body.Stream) :
    Async (Std.Http.Response Std.Http.Body.Full) := do
  let request ← readRequest call
  writeResponse (← (service.server.respond request).run service.surroundings.perform)

instance : Std.Http.Server.Handler Service where
  ResponseBody := Std.Http.Body.Full
  onRequest service call := service.answer call

/-- Listens on a port of all addresses of the machine. -/
def listen (service : Service) (port : UInt16) : Async (Except StartupError Std.Http.Server) := do
  try
    return .ok (← Std.Http.Server.serve (.v4 ⟨.ofParts 0 0 0 0, port⟩) service)
  catch error => return .error (.portUnavailable port (failureText error))

end EventRelay.Live
