import EventRelay.Json.Decoder
import EventRelay.Text.Decimal

namespace EventRelay.Json

/-- A fault of a text, with the place where the text ends. -/
structure Problem where
  fault : Fault
  line : Nat
  column : Nat
  deriving DecidableEq, Repr

namespace Problem

/-- Lines count from one, and columns count the bytes of the last line. -/
def ofText (fault : Fault) (text : List UInt8) : Problem where
  fault := fault
  line := 1 + text.count 0x0A
  column := (text.reverse.takeWhile (· != 0x0A)).length

def message (problem : Problem) : String :=
  match problem.fault with
  | .truncated =>
    "EOF while parsing a value at line " ++ Text.natText problem.line ++ " column " ++
      Text.natText problem.column
  | .malformed => "malformed text"
  | .mismatched => "unexpected value"

end Problem

/-- Reads a whole text, or says what is wrong with it. -/
def Decoder.read {α : Type} (decoder : Decoder α) (text : List UInt8) : Except Problem α :=
  match decoder.run text with
  | .ok value => .ok value
  | .error fault => .error (.ofText fault text)

end EventRelay.Json
