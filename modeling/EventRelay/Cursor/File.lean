import EventRelay.Json.Problem
import EventRelay.Json.Value

namespace EventRelay.CursorFile

open Json Decoder

/-- What stands for a character of an account in the name of its file. Slashes would leave the
    directory. -/
def safeChar : Char → List Char
  | '/' => ['_']
  | '@' => ['_', 'a', 't', '_']
  | c => [c]

def safeName (account : String) : String :=
  String.ofList (account.toList.flatMap safeChar)

/-- The name of the file that holds an account's position. -/
def name (account : String) : String :=
  if account = "" then "gmail-state.json" else "gmail-state-" ++ safeName account ++ ".json"

/-- The name under which a new position is written before it replaces the old one. -/
def temporaryName (account : String) : String :=
  name account ++ ".tmp"

def content (position : UInt64) : List UInt8 :=
  (Value.object [("history_id", .natural position.toNat)]).bytes

def decoder : Decoder UInt64 :=
  record [.needed "history_id" uint64 fun position _ => position] 0

def read (content : List UInt8) : Except Problem UInt64 :=
  decoder.read content

end EventRelay.CursorFile
