import EventRelay.Text.CodePoint

namespace EventRelay.Text

/-- Why a text is not a natural number within a limit. -/
inductive DecimalError
  | empty
  | invalidDigit
  | tooLarge
  deriving DecidableEq, Repr

def DecimalError.message : DecimalError → String
  | .empty => "cannot parse integer from empty string"
  | .invalidDigit => "invalid digit found in string"
  | .tooLarge => "number too large to fit in target type"

def digitValue (c : Char) : Nat :=
  c.toNat - 48

/-- Reads on from the value of the digits before. Reading stops at the first character that is no
    digit or whose digit takes the value over the limit. -/
def readDigits (limit : Nat) : Nat → List Char → Except DecimalError Nat
  | value, [] => .ok value
  | value, c :: rest =>
    if !isAsciiDigit c then .error .invalidDigit
    else if limit < 10 * value + digitValue c then .error .tooLarge
    else readDigits limit (10 * value + digitValue c) rest

/-- Reads a natural number of at most `limit`: decimal digits, possibly after one plus sign. A sign
    alone lacks its digits. -/
def readNat (limit : Nat) (text : List Char) : Except DecimalError Nat :=
  match text with
  | [] => .error .empty
  | ['+'] => .error .invalidDigit
  | '+' :: digits => readDigits limit 0 digits
  | digits => readDigits limit 0 digits

/-- The decimal digits of a number, without leading zeros. -/
def natText (n : Nat) : String :=
  String.ofList (Nat.toDigits 10 n)

/-- The lower-case hexadecimal digits of a number, without leading zeros. -/
def hexText (n : Nat) : String :=
  String.ofList (Nat.toDigits 16 n)

def maxUInt16 : Nat := 65535

def maxUInt32 : Nat := 4294967295

def maxUInt64 : Nat := 18446744073709551615

end EventRelay.Text
