import EventRelay.Http.Header

namespace EventRelay.Http

/-- A call to the relay. The path is that of the target, without the query. -/
structure Request where
  method : String
  path : String
  headers : Headers
  body : List UInt8
  deriving DecidableEq, Repr

/-- A target of the form `scheme://host/path` from its path on, and any other target as it is. -/
def dropAuthority (target : List Char) : List Char :=
  match [':', '/', '/'].isPrefixOf? (target.dropWhile (· != ':')) with
  | some rest =>
    if target.head? = some '/' then target
    else match rest.dropWhile fun c => c != '/' && c != '?' && c != '#' with
      | '/' :: path => '/' :: path
      | query => '/' :: query
  | none => target

/-- The path of a request's target: what stands before the query. -/
def targetPath (target : String) : String :=
  String.ofList ((dropAuthority target.toList).takeWhile fun c => c != '?' && c != '#')

end EventRelay.Http
