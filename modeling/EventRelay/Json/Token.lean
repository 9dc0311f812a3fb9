import EventRelay.Json.Numeral
import EventRelay.Json.StringToken

namespace EventRelay.Json

open Byte

inductive Literal
  | null
  | true
  | false
  deriving DecidableEq, Repr

/-- The smallest pieces of a text. Some pieces are broken, and reading cannot go beyond them. -/
inductive Token
  | openBracket
  | closeBracket
  | openBrace
  | closeBrace
  | colon
  | comma
  | literal (l : Literal)
  | brokenLiteral (fault : Fault)
  | number (n : NumberToken)
  | string (s : StringToken)
  /-- A character with which no piece begins. Reading ends there. -/
  | stray
  deriving DecidableEq, Repr

/-- The text after a word, which has to stand there in full. -/
def scanWord : List UInt8 → List UInt8 → Except Fault (List UInt8)
  | [], text => .ok text
  | _ :: _, [] => .error .truncated
  | w :: word, b :: text => if w = b then scanWord word text else .error .malformed

def scanLiteral (l : Literal) (word text : List UInt8) : Token × List UInt8 :=
  match scanWord word text with
  | .ok rest => (.literal l, rest)
  | .error fault => (.brokenLiteral fault, [])

/-- The piece that begins with a byte, if one does, and the text after it. -/
def scanToken (b : UInt8) (rest : List UInt8) : Token × List UInt8 :=
  if b = Byte.openBracket then (.openBracket, rest)
  else if b = Byte.closeBracket then (.closeBracket, rest)
  else if b = Byte.openBrace then (.openBrace, rest)
  else if b = Byte.closeBrace then (.closeBrace, rest)
  else if b = Byte.colon then (.colon, rest)
  else if b = Byte.comma then (.comma, rest)
  else if b = quote then
    let (s, rest) := scanString [] rest
    (.string s, rest)
  else if isDigit b || b == minus then
    let (n, rest) := scanNumber (b :: rest)
    (.number n, rest)
  else if b = 0x6E then scanLiteral .null [0x75, 0x6C, 0x6C] rest
  else if b = 0x74 then scanLiteral .true [0x72, 0x75, 0x65] rest
  else if b = 0x66 then scanLiteral .false [0x61, 0x6C, 0x73, 0x65] rest
  else (.stray, [])

/-- Reads pieces until the text ends. Every piece takes a byte, so the length of the text is fuel
    enough. `read` holds the pieces so far, last one first. -/
def scanTokens : Nat → List Token → List UInt8 → List Token
  | 0, read, _ => read.reverse
  | _, read, [] => read.reverse
  | fuel + 1, read, b :: rest =>
    if isBlank b then scanTokens fuel read rest
    else
      let (token, rest) := scanToken b rest
      scanTokens fuel (token :: read) rest

def tokens (text : List UInt8) : List Token :=
  scanTokens text.length [] text

end EventRelay.Json
