import EventRelay.Text.Decimal
import EventRelay.Text.Utf8

namespace EventRelay.Json

/-- A value to be written. -/
inductive Value
  | null
  | bool (b : Bool)
  | natural (n : Nat)
  | string (s : String)
  | array (items : List Value)
  | object (members : List (String × Value))

namespace Value

/-- A control character by its number, in four digits. -/
def controlEscape (c : Char) : String :=
  let digits := Text.hexText c.toNat
  "\\u" ++ "".pushn '0' (4 - digits.length) ++ digits

def escapeChar (c : Char) : String :=
  if c = '"' then "\\\""
  else if c = '\\' then "\\\\"
  else if c = '\x08' then "\\b"
  else if c = '\x0C' then "\\f"
  else if c = '\n' then "\\n"
  else if c = '\r' then "\\r"
  else if c = '\t' then "\\t"
  else if c.toNat < 0x20 then controlEscape c
  else c.toString

def stringText (s : String) : String :=
  "\"" ++ String.join (s.toList.map escapeChar) ++ "\""

mutual

/-- The value in its shortest form, without blanks and with members in the given order. -/
def print : Value → String
  | null => "null"
  | bool b => if b then "true" else "false"
  | natural n => Text.natText n
  | string s => stringText s
  | array items => "[" ++ ",".intercalate (printItems items) ++ "]"
  | object members => "\x7b" ++ ",".intercalate (printMembers members) ++ "\x7d"

def printItems : List Value → List String
  | [] => []
  | item :: rest => print item :: printItems rest

def printMembers : List (String × Value) → List String
  | [] => []
  | (name, value) :: rest => (stringText name ++ ":" ++ print value) :: printMembers rest

end

def bytes (value : Value) : List UInt8 :=
  Text.Utf8.encode value.print.toList

end Value

end EventRelay.Json
