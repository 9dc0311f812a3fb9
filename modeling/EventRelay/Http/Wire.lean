import EventRelay.Http.Call
import EventRelay.Http.Header
import EventRelay.Http.Url
import EventRelay.Text.Blank

namespace EventRelay.Http

open Text

def newline : String := "\r\n"

namespace Call

/-- The lines about the body of a call. -/
def bodyHeaders (body : List UInt8) : Option Json.Value → List String
  | some _ =>
    ["content-type: application/json", "content-length: " ++ natText body.length]
  | none => []

/-- The call as it is sent. The connection is closed after the reply. -/
def bytes (call : Call) (url : Url) : List UInt8 :=
  let body := (call.body?.map Json.Value.bytes).getD []
  let target := url.path ++ String.ofList (Url.query call.query)
  let head :=
    [call.method ++ " " ++ target ++ " HTTP/1.1", "host: " ++ url.host, "accept: */*",
     "authorization: Bearer " ++ call.token, "connection: close"] ++
      bodyHeaders body call.body? ++ ["", ""]
  Utf8.encode (newline.intercalate head).toList ++ body

end Call

namespace Reply

/-- The bytes before the first empty line, and those after it. -/
def splitHead? : List UInt8 → Option (List UInt8 × List UInt8)
  | 0x0D :: 0x0A :: 0x0D :: 0x0A :: rest => some ([], rest)
  | b :: rest => (splitHead? rest).map fun cut => (b :: cut.1, cut.2)
  | [] => none

/-- The lines of a head, without their ends. -/
def lines (head : List UInt8) : List (List UInt8) :=
  (head.filter (· != 0x0D)).splitOn 0x0A

def asText (bytes : List UInt8) : List Char :=
  bytes.map fun b => Char.ofNat b.toNat

/-- The code of a status line such as `HTTP/1.1 200 OK`. -/
def statusCode? (line : List UInt8) : Option Nat :=
  match (asText line).splitOn ' ' with
  | _ :: code :: _ => (readNat 999 code).toOption
  | _ => none

def readHeader (line : List UInt8) : String × List UInt8 :=
  (String.ofList (asText (line.takeWhile (· != 0x3A))),
    ((line.dropWhile (· != 0x3A)).drop 1).dropWhile (· == 0x20))

/-- The length in front of a chunk, in hexadecimal. -/
def chunkLength? (line : List UInt8) : Option Nat :=
  let digits := (trim (asText line)).takeWhile (· != ';')
  if digits = [] then none
  else digits.foldlM (fun value c => return value * 16 + (← Digest.Hex.value? c)) 0

/-- Joins the chunks of a body. The length of the body is fuel enough. -/
def joinChunks? : Nat → List UInt8 → Option (List UInt8)
  | 0, _ => none
  | fuel + 1, body => do
    let length ← chunkLength? (body.takeWhile (· != 0x0A))
    let rest := (body.dropWhile (· != 0x0A)).drop 1
    if length = 0 then return []
    guard (length ≤ rest.length)
    return rest.take length ++ (← joinChunks? fuel (rest.drop (length + 2)))

/-- The body of a reply with those headers, given all that follows them. -/
def readBody? (headers : Headers) (rest : List UInt8) : Option (List UInt8) := do
  if (headers.get "transfer-encoding").toList.map asciiLower = "chunked".toList then
    joinChunks? (rest.length + 1) rest
  else match (readNat maxUInt64 (headers.get "content-length").toList).toOption with
    | some length =>
      guard (length ≤ rest.length)
      return rest.take length
    | none => return rest

/-- Reads all that came back from a call. -/
def parse? (bytes : List UInt8) : Option Reply := do
  let (head, rest) ← splitHead? bytes
  match lines head with
  | [] => none
  | status :: headers =>
    return ⟨← statusCode? status, ← readBody? (headers.map readHeader) rest⟩

end Reply

end EventRelay.Http
