import EventRelay.Board
import EventRelay.Json.Decoder

namespace EventRelay.Trello

open Json Decoder

/-- A card or a list as a call names it. -/
structure Reference where
  id : String
  name : String
  deriving DecidableEq, Repr

/-- The part of a call that matters: what was done, to which card, and from which list to which. -/
structure Call where
  action : String
  card : Reference
  listAfter : Reference
  listBefore : Reference
  deriving DecidableEq, Repr

def Reference.blank : Reference :=
  ⟨"", ""⟩

def Call.blank : Call :=
  ⟨"", .blank, .blank, .blank⟩

def Reference.decoder : Decoder Reference :=
  record
    [.withDefault ["id"] text fun id reference => { reference with id },
     .withDefault ["name"] text fun name reference => { reference with name }]
    .blank

/-- The data of an action, as a call whose action is yet to be filled in. -/
def dataDecoder : Decoder Call :=
  record
    [.withDefault ["card"] Reference.decoder fun card call => { call with card },
     .withDefault ["listAfter"] Reference.decoder fun listAfter call => { call with listAfter },
     .withDefault ["listBefore"] Reference.decoder fun listBefore call => { call with listBefore }]
    .blank

def actionDecoder : Decoder Call :=
  record
    [.withDefault ["type"] text fun action call => { call with action },
     .withDefault ["data"] dataDecoder fun data call => { data with action := call.action }]
    .blank

def Call.decoder : Decoder Call :=
  record [.withDefault ["action"] actionDecoder fun call _ => call] .blank

def cardMoved : String := "card_moved"

def commentAdded : String := "comment_added"

/-- The operator's name of the list that only takes comments. Cards moved there make no event. -/
def commentOnlyList : String := "questions"

/-- The event that a call makes, once its source, kind and list are known. -/
def Call.toEvent (call : Call) (source : Source) (kind list : String) : Event where
  source := source
  kind := kind
  subject := call.card.id
  discriminator := call.action
  label := kind ++ ": " ++ call.card.name
  facts := .ofList [(Fact.list, list), (Fact.action, call.action)]
  fields := .ofList
    [("CardID", call.card.id), ("CardName", call.card.name), ("ListAfterID", call.listAfter.id),
     ("ListAfterName", call.listAfter.name), ("ListBeforeName", call.listBefore.name),
     ("ListName", call.listAfter.name)]

/-- A card moved to a watched list that takes more than comments, or a comment on a card. A comment
    may stand in any list; one that is not watched has no name. -/
def Call.event? (board : Board) (call : Call) : Option Event :=
  if call.action = "updateCard" then
    if call.listAfter.id = "" then none
    else match board.listName? call.listAfter.id with
      | none => none
      | some list =>
        if list = commentOnlyList then none else some (call.toEvent .cardMove cardMoved list)
  else if call.action = "commentCard" then
    if call.card.id = "" then none
    else some (call.toEvent .comment commentAdded ((board.listName? call.listAfter.id).getD ""))
  else none

/-- The event that the body of a call makes. A body that cannot be read makes none. -/
def event? (board : Board) (body : List UInt8) : Option Event :=
  match Call.decoder.run body with
  | .ok call => call.event? board
  | .error _ => none

end EventRelay.Trello
