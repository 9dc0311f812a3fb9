import EventRelay.Http.Request
import EventRelay.Http.Response
import EventRelay.Http.Route
import EventRelay.Signature

namespace EventRelay.Http

/-- What answers calls to the relay. An empty secret or token switches its check off. -/
structure Server where
  ingest : PushIngest
  trelloSecret : String
  /-- The URL that Trello signs, unless it is to be made from the call. -/
  trelloCallbackUrl? : Option String
  githubSecret : String
  internalToken : String
  deriving DecidableEq, Repr

namespace Server

def new (ingest : PushIngest) (settings : Settings) : Server where
  ingest := ingest
  trelloSecret := settings.trelloSecret
  trelloCallbackUrl? := settings.trelloCallbackUrl?
  githubSecret := settings.githubSecret
  internalToken := settings.internalToken

/-- The largest body of a webhook call, in bytes. -/
def maxWebhookBody : Nat := 25 * 1024 * 1024

def signatureHeader : PushSource → String
  | .trello => "x-trello-webhook"
  | .github => "x-hub-signature-256"

def githubEventHeader : String := "x-github-event"

def internalTokenHeader : String := "x-relay-token"

/-- Whether a call may see the internal resources. -/
def admits (server : Server) (request : Request) : Bool :=
  server.internalToken == "" || request.headers.get internalTokenHeader == server.internalToken

/-- The URL that a Trello call was sent to. -/
def callbackUrl (server : Server) (request : Request) : String :=
  server.trelloCallbackUrl?.getD ("https://" ++ request.headers.get "host" ++ request.path)

/-- Whether a call comes from the source that it claims to come from. -/
def verifies (server : Server) (source : PushSource) (request : Request) : Bool :=
  let signature := request.headers.get (signatureHeader source)
  match source with
  | .trello =>
    Signature.trelloAccepts request.body signature server.trelloSecret (server.callbackUrl request)
  | .github => Signature.githubAccepts request.body signature server.githubSecret

def healthy : Response :=
  .json 200 (.object [("status", .string "ok")])

def serviceStatus : Response :=
  .json 200 (.object [("service", .string "hook-relay"), ("status", .string "ok")])

def unauthorized : Response :=
  .json 401 (.object [("error", .string "unauthorized")])

def forbidden : Response :=
  .text 403 "forbidden"

def tooLarge : Response :=
  .text 413 "Failed to buffer the request body: length limit exceeded"

def accepted : Response :=
  .json 200 (.object [("ok", .bool true)])

/-- Takes a webhook call. One that is neither too large nor forged is accepted whatever becomes of
    it. -/
def receive (server : Server) (source : PushSource) (request : Request) : RelayM Response := do
  if maxWebhookBody < request.body.length then return tooLarge
  else if !server.verifies source request then return forbidden
  else
    let _ ← server.ingest.handle source request.body (request.headers.get githubEventHeader)
    return accepted

/-- Answers a call whose method the resource allows. -/
def answer (server : Server) (route : Route) (request : Request) : RelayM Response :=
  match route with
  | .health => return healthy
  | .status => return serviceStatus
  | .webhook source =>
    if request.method = "HEAD" then return .empty 200 else server.receive source request

/-- Whether a call is turned away before the method matters. -/
def rejects (server : Server) (route : Route) (request : Request) : Bool :=
  route == .status && !server.admits request

/-- Answers a call to a resource. -/
def visit (server : Server) (route : Route) (request : Request) : RelayM Response := do
  let response ←
    if server.rejects route request then pure unauthorized
    else if route.allows request.method then server.answer route request
    else pure (.empty 405)
  if route.allows request.method then return response
  else return { response with allow? := some route.allowText }

/-- Answers a call. -/
def respond (server : Server) (request : Request) : RelayM Response := do
  let response ←
    match Route.ofPath? request.path with
    | some route => server.visit route request
    | none => pure (.empty 404)
  if request.method = "HEAD" then return response.withoutBody else return response

end Server

end EventRelay.Http
