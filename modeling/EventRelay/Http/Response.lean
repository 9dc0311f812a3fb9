import EventRelay.Json.Value

namespace EventRelay.Http

/-- The relay's answer to a call. -/
structure Response where
  status : Nat
  contentType? : Option String
  /-- The methods that the resource allows, where the one of the call is none of them. -/
  allow? : Option String
  body : String
  deriving DecidableEq, Repr

namespace Response

def empty (status : Nat) : Response :=
  ⟨status, none, none, ""⟩

def text (status : Nat) (body : String) : Response :=
  ⟨status, some "text/plain; charset=utf-8", none, body⟩

def json (status : Nat) (body : Json.Value) : Response :=
  ⟨status, some "application/json", none, body.print⟩

/-- The answer to a call that only asks for the headers. -/
def withoutBody (response : Response) : Response :=
  { response with body := "" }

end Response

end EventRelay.Http
