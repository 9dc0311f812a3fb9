import EventRelay.Digest.Hex
import EventRelay.Text.Decimal
import EventRelay.Text.Split
import EventRelay.Text.Utf8

namespace EventRelay.Http

/-- Where a call goes. -/
structure Url where
  /-- Whether the connection is to be encrypted. -/
  secure : Bool
  host : String
  port : UInt16
  path : String
  deriving DecidableEq, Repr

namespace Url

/-- The rest of a URL after its scheme, and whether the scheme asks for encryption. -/
def scheme? (text : String) : Option (Bool × List Char) :=
  match "https://".toList.isPrefixOf? text.toList with
  | some rest => some (true, rest)
  | none => ("http://".toList.isPrefixOf? text.toList).map fun rest => (false, rest)

def defaultPort (secure : Bool) : UInt16 :=
  if secure then 443 else 80

/-- The host and the port of an address such as `example.com:8080`. -/
def hostAndPort? (secure : Bool) (address : List Char) : Option (String × UInt16) := do
  let host := address.takeWhile (· != ':')
  guard (host ≠ [])
  match address.dropWhile (· != ':') with
  | ':' :: port =>
    let port ← (Text.readNat Text.maxUInt16 port).toOption
    return (String.ofList host, port.toUInt16)
  | _ => return (String.ofList host, defaultPort secure)

def parse? (text : String) : Option Url := do
  let (secure, rest) ← scheme? text
  let (host, port) ← hostAndPort? secure (rest.takeWhile (· != '/'))
  let path := String.ofList (rest.dropWhile (· != '/'))
  return ⟨secure, host, port, if path = "" then "/" else path⟩

/-- A byte of a query. Letters, digits and four marks stand for themselves, and a plus sign for a
    space. -/
def queryByte (b : UInt8) : List Char :=
  let c := Char.ofNat b.toNat
  if Text.isAsciiAlphanumeric c || ['*', '-', '.', '_'].contains c then [c]
  else if c = ' ' then ['+']
  else ['%', Text.asciiUpper (Digest.Hex.digit (b.toNat / 16)),
    Text.asciiUpper (Digest.Hex.digit (b.toNat % 16))]

def queryText (text : String) : List Char :=
  (Text.Utf8.encode text.toList).flatMap queryByte

/-- Names and values as a query, from its question mark on. Without any there is no query. -/
def query (pairs : List (String × String)) : List Char :=
  if pairs = [] then []
  else '?' :: ['&'].intercalate
    (pairs.map fun (name, value) => queryText name ++ '=' :: queryText value)

end Url

end EventRelay.Http
