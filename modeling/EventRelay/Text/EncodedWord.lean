import EventRelay.Digest.Base64
import EventRelay.Digest.Hex
import EventRelay.Text.Split
import EventRelay.Text.Utf8

namespace EventRelay.Text.EncodedWord

/-- How the bytes of an encoded word are written. -/
inductive Encoding
  | quoted
  | base64
  deriving DecidableEq, Repr

def Encoding.ofLetter? (c : Char) : Option Encoding :=
  if asciiLower c = 'q' then some .quoted
  else if asciiLower c = 'b' then some .base64
  else none

/-- The bytes of quoted text: an equals sign stands before two hexadecimal digits, and an underscore
    for a space. -/
def unquote? : List Char → Option (List UInt8)
  | [] => some []
  | '_' :: rest => (unquote? rest).map (0x20 :: ·)
  | '=' :: high :: low :: rest => do
    let high ← Digest.Hex.value? high
    let low ← Digest.Hex.value? low
    return (high * 16 + low).toUInt8 :: (← unquote? rest)
  | ['=', _] | ['='] => none
  | c :: rest => do return Utf8.encode [c] ++ (← unquote? rest)

/-- The bytes that base64 digits write, whether or not they fill their last group. -/
def ofSextets : List Nat → List UInt8
  | a :: b :: c :: d :: rest =>
    (a * 4 + b / 16).toUInt8 :: (b % 16 * 16 + c / 4).toUInt8 :: (c % 4 * 64 + d).toUInt8 ::
      ofSextets rest
  | [a, b, c] => [(a * 4 + b / 16).toUInt8, (b % 16 * 16 + c / 4).toUInt8]
  | [a, b] => [(a * 4 + b / 16).toUInt8]
  | _ => []

def bytes? : Encoding → List Char → Option (List UInt8)
  | .quoted, text => unquote? text
  | .base64, text => ((dropTrailing '=' text).mapM Digest.Base64.value?).map ofSextets

/-- The text that bytes mean in a character set. A set that is not known counts as UTF-8. -/
def ofCharset (charset : List Char) (bytes : List UInt8) : List Char :=
  if String.ofList (charset.map asciiLower) = "iso-8859-1" then
    bytes.map fun b => Char.ofNat b.toNat
  else Utf8.decodeLossy bytes

/-- What stands before the first `?=`, and what after it. No line may end before. -/
def cutAtEnd? : List Char → Option (List Char × List Char)
  | '?' :: '=' :: rest => some ([], rest)
  | c :: rest =>
    if c = '\n' then none else (cutAtEnd? rest).map fun cut => (c :: cut.1, cut.2)
  | [] => none

/-- Reads a word `=?charset?encoding?text?=` at the beginning of a text, and gives what it means and
    what follows it. A language after the charset does not count. -/
def read? : List Char → Option (List Char × List Char)
  | '=' :: '?' :: rest => do
    let charset := (rest.takeWhile (· != '?')).takeWhile (· != '*')
    guard (charset ≠ [])
    match rest.dropWhile (· != '?') with
    | '?' :: letter :: '?' :: rest =>
      let encoding ← Encoding.ofLetter? letter
      let (text, rest) ← cutAtEnd? rest
      return (ofCharset charset (← bytes? encoding text), rest)
    | _ => none
  | _ => none

/-- A piece of a header value. -/
inductive Piece
  | plain (text : List Char)
  | encoded (text : List Char)
  deriving DecidableEq, Repr

def isSpace (c : Char) : Bool :=
  c == ' ' || c == '\t' || c == '\r' || c == '\n'

/-- The plain piece that ends here, of which `read` holds the characters, last one first. Blanks around
    it do not belong to it. -/
def plainPiece (read : List Char) : List Piece :=
  match (read.dropWhile isSpace).reverse with
  | [] => []
  | text => [.plain text]

/-- Cuts a value into its encoded words and what stands between them. A word that does not decode is
    plain text. The length of the value is fuel enough. -/
def cut : Nat → List Char → List Char → List Piece
  | 0, read, _ => plainPiece read
  | _, read, [] => plainPiece read
  | fuel + 1, read, c :: rest =>
    match read? (c :: rest) with
    | some (text, rest) => plainPiece read ++ .encoded text :: cut fuel [] rest
    | none => if read = [] ∧ isSpace c then cut fuel [] rest else cut fuel (c :: read) rest

/-- Joins pieces. Encoded words that follow each other join without a space. -/
def join : List Piece → List Char
  | [] => []
  | [.plain text] | [.encoded text] => text
  | .encoded text :: .encoded next :: rest => text ++ join (.encoded next :: rest)
  | .plain text :: rest | .encoded text :: rest => text ++ ' ' :: join rest

/-- A header value with its encoded words decoded. A value without any stays as it is. -/
def decode (value : String) : String :=
  match cut value.length [] value.toList with
  | [] => value
  | pieces => String.ofList (join pieces)

end EventRelay.Text.EncodedWord
