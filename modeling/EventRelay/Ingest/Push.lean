import EventRelay.Ingest.GitHub
import EventRelay.Ingest.Trello
import EventRelay.Pipeline

namespace EventRelay

/-- The sources that call the relay. -/
inductive PushSource
  | trello
  | github
  deriving DecidableEq, Repr

def PushSource.tag : PushSource → String
  | .trello => "trello"
  | .github => "github"

/-- What the relay needs to know about the sources that call it. -/
structure PushIngest where
  board : Board
  githubRules : List Rule
  notifyMode : NotifyMode
  deriving DecidableEq, Repr

namespace PushIngest

/-- Without rules for GitHub the built-in ones apply. -/
def new (board : Board) (githubRules : List Rule) (notifyMode : NotifyMode) : PushIngest where
  board := board
  githubRules := if githubRules.isEmpty then GitHub.defaultRules else githubRules
  notifyMode := notifyMode

/-- The event that a call makes. Only GitHub names the kind of event outside the body. -/
def event? (ingest : PushIngest) (source : PushSource) (body : List UInt8) (tag : String) :
    Option Event :=
  match source with
  | .trello => Trello.event? ingest.board body
  | .github => GitHub.event? tag ingest.notifyMode body

def rules (ingest : PushIngest) : PushSource → List Rule
  | .trello => ingest.board.rules
  | .github => ingest.githubRules

/-- Takes a call whose sender has been verified, and tells whether an action was dispatched for it. -/
def handle (ingest : PushIngest) (source : PushSource) (body : List UInt8) (tag : String) :
    RelayM Bool := do
  match ingest.event? source body tag with
  | some event => return (← Pipeline.process event (ingest.rules source)).isDispatched
  | none => return false

end PushIngest

end EventRelay
