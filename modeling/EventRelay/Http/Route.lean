import EventRelay.Ingest.Push

namespace EventRelay.Http

/-- The resources of the relay. -/
inductive Route
  | health
  | status
  | webhook (source : PushSource)
  deriving DecidableEq, Repr

namespace Route

def all : List Route :=
  [.health, .status, .webhook .trello, .webhook .github]

def path : Route → String
  | health => "/health"
  | status => "/api/status"
  | webhook source => "/webhook/" ++ source.tag

/-- The resource at a path. Paths are compared character for character. -/
def ofPath? (path : String) : Option Route :=
  all.find? (·.path == path)

/-- The methods that a resource allows. Trello tries a webhook with `HEAD` before it uses it. -/
def methods : Route → List String
  | health | status => ["GET", "HEAD"]
  | webhook .trello => ["POST", "HEAD"]
  | webhook .github => ["POST"]

def allows (route : Route) (method : String) : Bool :=
  route.methods.contains method

def allowText (route : Route) : String :=
  ",".intercalate route.methods

end Route

end EventRelay.Http
