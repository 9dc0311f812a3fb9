import EventRelay.Digest.Base64
import EventRelay.Digest.Hex
import EventRelay.Digest.Hmac
import EventRelay.Text.Blank
import EventRelay.Text.Utf8

namespace EventRelay.Signature

open Digest Text

def secretBytes (secret : String) : List UInt8 :=
  Utf8.encode secret.toList

/-- What a board signs: the body of the call, and after it the URL that it calls. -/
def boardDigest (body : List UInt8) (secret callbackUrl : String) : List UInt8 :=
  hmacSha1 (secretBytes secret) (body ++ Utf8.encode callbackUrl.toList)

def repositoryDigest (body : List UInt8) (secret : String) : List UInt8 :=
  hmacSha256 (secretBytes secret) body

/-- The signature of a Trello call. -/
def trello (body : List UInt8) (secret callbackUrl : String) : String :=
  String.ofList (Base64.encode (boardDigest body secret callbackUrl))

/-- The name of the hash, which stands before the digits of a GitHub signature. -/
def scheme : List Char := ['s', 'h', 'a', '2', '5', '6', '=']

/-- The signature of a GitHub call. -/
def github (body : List UInt8) (secret : String) : String :=
  String.ofList (scheme ++ Hex.encode (repositoryDigest body secret))

/-- Blanks around a signature do not count, and without a secret everything passes. -/
def trelloAccepts (body : List UInt8) (signature secret callbackUrl : String) : Bool :=
  secret == "" ||
    (Base64.decode? (trim signature.toList)).any (· == boardDigest body secret callbackUrl)

/-- The digest that a GitHub signature spells. -/
def spelledDigest? (signature : List Char) : Option (List UInt8) :=
  (scheme.isPrefixOf? signature).bind Hex.decode?

/-- As for Trello; the digits may be of either case. -/
def githubAccepts (body : List UInt8) (signature secret : String) : Bool :=
  secret == "" ||
    (spelledDigest? (trim signature.toList)).any (· == repositoryDigest body secret)

end EventRelay.Signature
