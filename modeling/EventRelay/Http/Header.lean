import EventRelay.Text.CodePoint

namespace EventRelay.Http

/-- The header lines of a message, in order. Their values are bytes. -/
abbrev Headers := List (String × List UInt8)

namespace Headers

/-- The bytes that a readable value consists of: those of printable ASCII characters and tabs. -/
def isReadable (b : UInt8) : Bool :=
  (0x20 ≤ b && b < 0x7F) || b == 0x09

/-- The text of a value; a value that is not readable counts as empty. -/
def text (value : List UInt8) : String :=
  if value.all isReadable then String.ofList (value.map fun b => Char.ofNat b.toNat) else ""

/-- Names of headers are alike when they differ in case only. -/
def isNamed (name : String) (header : String × List UInt8) : Bool :=
  header.1.toList.map Text.asciiLower == name.toList.map Text.asciiLower

/-- The value of a header. Of several with one name the first counts, and a missing one is empty. -/
def get (headers : Headers) (name : String) : String :=
  match headers.find? (isNamed name) with
  | some (_, value) => text value
  | none => ""

end Headers

end EventRelay.Http
