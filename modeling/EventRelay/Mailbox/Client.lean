import EventRelay.Action
import EventRelay.Http.Call
import EventRelay.Mailbox.History
import EventRelay.Mailbox.Listing

namespace EventRelay

/-- Reads the history of one mailbox. -/
structure MailboxClient where
  account : String
  token : String
  baseUrl : String
  deriving DecidableEq, Repr

namespace MailboxClient

open Http Mailbox

def defaultBaseUrl : String := "https://gmail.googleapis.com/gmail/v1/users/me"

/-- Slashes at the end of the URL do not count. -/
def new (account token baseUrl : String) : MailboxClient :=
  ⟨account, token, String.ofList (Text.dropTrailing '/' baseUrl.toList)⟩

def send (client : MailboxClient) (endpoint : String) (query : List (String × String)) :
    ClientM (Except HistoryError Reply) := do
  let call : Call := ⟨"GET", client.baseUrl ++ "/" ++ endpoint, query, client.token, none⟩
  match ← call.send with
  | .error reason => return .error (.request endpoint reason)
  | .ok reply => return .ok reply

/-- Reads the body of a reply, unless its status is that of a failure. -/
def decode {α : Type} (client : MailboxClient) (endpoint : String) (decoder : Json.Decoder α)
    (reply : Reply) : Except HistoryError α :=
  if reply.status = 401 ∨ reply.status = 403 then .error (.unauthorized client.account)
  else if !Status.isSuccess reply.status then .error (.status endpoint reply.status reply.text)
  else match decoder.run reply.body with
    | .ok value => .ok value
    | .error _ => .error (.invalidResponse endpoint "error decoding response body")

def fetch {α : Type} (client : MailboxClient) (endpoint : String) (query : List (String × String))
    (decoder : Json.Decoder α) : ClientM (Except HistoryError α) := do
  match ← client.send endpoint query with
  | .error error => return .error error
  | .ok reply => return client.decode endpoint decoder reply

def detailsQuery : List (String × String) :=
  [("format", "metadata"), ("metadataHeaders", "From"), ("metadataHeaders", "Subject")]

/-- Asks for what the history does not tell about a message. If that fails the message is taken as it
    is. -/
def enrich (client : MailboxClient) (message : MessageReference) : ClientM MailMessage := do
  match ← client.fetch ("messages/" ++ message.id) detailsQuery MessageDetails.decoder with
  | .ok details => return message.withDetails details
  | .error _ => return message.bare

def enrichAll (client : MailboxClient) : List MessageReference → ClientM (List MailMessage)
  | [] => return []
  | message :: rest => do
    let first ← client.enrich message
    return first :: (← client.enrichAll rest)

/-- The mailbox's current position. -/
def highWater (client : MailboxClient) : ClientM (Except HistoryError UInt64) := do
  match ← client.fetch "profile" [] profileDecoder with
  | .error error => return .error error
  | .ok position? =>
    match position?.bind WrittenPosition.value? with
    | some position => return .ok position
    | none => return .error (.missingPosition "profile")

def historyQuery (position : UInt64) (page? : Option String) : List (String × String) :=
  [("startHistoryId", Text.natText position.toNat), ("historyTypes", "messageAdded")] ++
    page?.toList.map fun page => ("pageToken", page)

/-- Adds a page's messages and its position to those of the pages before. -/
def extend (before : HistoryPage) (listing : Listing) (entries : List MailMessage) :
    HistoryPage where
  entries := before.entries ++ entries
  position := (listing.position?.bind WrittenPosition.value?).getD before.position

/-- How far a history has been read: what the pages so far gave, and the page that comes next. The first
    page has no name. -/
structure Reading where
  read : HistoryPage
  page? : Option String
  deriving DecidableEq, Repr

/-- Nothing has been read yet. -/
def Reading.start : Reading :=
  ⟨⟨[], 0⟩, none⟩

/-- Reads one page, and says how to go on: with the next page, or with the result. A page that fails
    makes the whole fail. -/
def readPage (client : MailboxClient) (position : UInt64) (reading : Reading) :
    ClientM (Reading ⊕ Except HistoryError HistoryPage) := do
  match ← client.send "history" (historyQuery position reading.page?) with
  | .error error => return .inr (.error error)
  | .ok reply =>
    if reply.status = 404 then return .inr (.error (.expired position))
    else match client.decode "history" Listing.decoder reply with
      | .error error => return .inr (.error error)
      | .ok listing =>
        let entries ← client.enrichAll listing.messages
        let read := extend reading.read listing entries
        match listing.nextPage?.bind nonempty? with
        | some page => return .inl ⟨read, some page⟩
        | none => return .inr (.ok read)

/-- What arrived after a position, read page by page until a page names no other. `perform` does what
    the client asks. -/
def historySince {m : Type → Type} [Monad m] (client : MailboxClient)
    (perform : (effect : ClientEffect) → m effect.Answer) (position : UInt64) :
    m (Except HistoryError HistoryPage) :=
  have : Nonempty (Except HistoryError HistoryPage) := ⟨.ok Reading.start.read⟩
  repeatM (fun reading => (client.readPage position reading).run perform) Reading.start

end MailboxClient

end EventRelay
