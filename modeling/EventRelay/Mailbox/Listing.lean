import EventRelay.Action
import EventRelay.Ingest.Mail
import EventRelay.Json.Decoder
import EventRelay.Text.EncodedWord
import EventRelay.Text.Split

namespace EventRelay.Mailbox

open Json Decoder

/-- A position in a mailbox's history as a reply writes it. -/
inductive WrittenPosition
  | number (n : UInt64)
  | text (s : String)
  deriving DecidableEq, Repr

namespace WrittenPosition

/-- The position, if the text is one. -/
def value? : WrittenPosition → Option UInt64
  | number n => some n
  | text s => (Text.readNat Text.maxUInt64 s.toList).toOption.map Nat.toUInt64

def decoder : Decoder WrittenPosition
  | .string s => (Decoder.text (.string s)).map text
  | node => (uint64 node).map number

end WrittenPosition

/-- A message as the history names it. -/
structure MessageReference where
  id : String
  thread : String
  labels : List String
  deriving DecidableEq, Repr

/-- One page of the history. -/
structure Listing where
  /-- The messages added by each record. -/
  records : List (List MessageReference)
  position? : Option WrittenPosition
  nextPage? : Option String
  deriving DecidableEq, Repr

/-- What the mailbox tells about one message. -/
structure MessageDetails where
  id : String
  thread : String
  labels : List String
  snippet : String
  headers : List (String × String)
  deriving DecidableEq, Repr

def profileDecoder : Decoder (Option WrittenPosition) :=
  record [.nullable "historyId" WrittenPosition.decoder fun position? _ => position?] none

def MessageReference.decoder : Decoder MessageReference :=
  record
    [.withDefault ["id"] text fun id message => { message with id },
     .withDefault ["threadId"] text fun thread message => { message with thread },
     .withDefault ["labelIds"] (list text) fun labels message => { message with labels }]
    ⟨"", "", []⟩

def addedDecoder : Decoder MessageReference :=
  record [.withDefault ["message"] MessageReference.decoder fun message _ => message] ⟨"", "", []⟩

def recordDecoder : Decoder (List MessageReference) :=
  record [.withDefault ["messagesAdded"] (list addedDecoder) fun messages _ => messages] []

def Listing.decoder : Decoder Listing :=
  record
    [.withDefault ["history"] (list recordDecoder) fun records listing => { listing with records },
     .nullable "historyId" WrittenPosition.decoder fun position? listing => { listing with position? },
     .nullable "nextPageToken" text fun nextPage? listing => { listing with nextPage? }]
    ⟨[], none, none⟩

namespace Listing

/-- The messages of a page in order. One without an id cannot be asked for and is left out. -/
def messages (listing : Listing) : List MessageReference :=
  listing.records.flatten.filter (·.id != "")

end Listing

def headerDecoder : Decoder (String × String) :=
  record
    [.needed "name" text fun name header => (name, header.2),
     .needed "value" text fun value header => (header.1, value)]
    ("", "")

def payloadDecoder : Decoder (List (String × String)) :=
  record [.withDefault ["headers"] (list headerDecoder) fun headers _ => headers] []

namespace MessageDetails

def decoder : Decoder MessageDetails :=
  record
    [.withDefault ["id"] text fun id details => { details with id },
     .withDefault ["threadId"] text fun thread details => { details with thread },
     .withDefault ["labelIds"] (list text) fun labels details => { details with labels },
     .withDefault ["snippet"] text fun snippet details => { details with snippet },
     .withDefault ["payload"] payloadDecoder fun headers details => { details with headers }]
    ⟨"", "", [], "", []⟩

/-- A header value as people read it. -/
def readableHeader (value : String) : String :=
  if Text.contains value.toList ['=', '?'] then Text.EncodedWord.decode value else value

/-- The first header of a name, in any case. -/
def header (details : MessageDetails) (name : String) : String :=
  match details.headers.find? fun (given, _) =>
      given.toList.map Text.asciiLower == name.toList.map Text.asciiLower with
  | some (_, value) => readableHeader value
  | none => ""

end MessageDetails

namespace MessageReference

/-- The message without what only the mailbox itself can tell. -/
def bare (message : MessageReference) : MailMessage where
  id := message.id
  thread := message.thread
  labels := message.labels
  subject := ""
  sender := ""
  snippet := ""

/-- The message with what the mailbox tells about it. -/
def withDetails (message : MessageReference) (details : MessageDetails) : MailMessage where
  id := (nonempty? details.id).getD message.id
  thread := (nonempty? details.thread).getD message.thread
  labels := details.labels
  subject := details.header "Subject"
  sender := details.header "From"
  snippet := details.snippet

end MessageReference

end EventRelay.Mailbox
