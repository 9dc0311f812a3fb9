import EventRelay.Json.Byte
import EventRelay.Json.Fault
import EventRelay.Text.Decimal

namespace EventRelay.Json

open Byte

/-- A number as it is written, by its digits. -/
structure Numeral where
  negative : Bool
  whole : List UInt8
  fraction? : Option (List UInt8)
  /-- The sign of the exponent, true for minus, and its digits. -/
  exponent? : Option (Bool × List UInt8)
  deriving DecidableEq, Repr

def digitsValue (digits : List UInt8) : Nat :=
  digits.foldl (fun value digit => 10 * value + digitValue digit) 0

/-- A numeral, or the beginning of one that nothing can complete. It matters to a reader that wants a
    number whether such a beginning stands at the end of the text. -/
inductive NumberToken
  | numeral (n : Numeral)
  | broken (atEnd : Bool)
  deriving DecidableEq, Repr

def scanSign (isSign : UInt8 → Bool) : List UInt8 → Bool × List UInt8
  | b :: rest => if isSign b then (b == minus, rest) else (false, b :: rest)
  | [] => (false, [])

/-- Whether digits can stand before the point: there are some, and a leading zero stands alone. -/
def isWhole : List UInt8 → Bool
  | [] => false
  | [_] => true
  | b :: _ :: _ => b != 0x30

/-- Digits that must not be missing, after a point or an exponent mark. -/
def scanDigits (text : List UInt8) : Except NumberToken (List UInt8 × List UInt8) :=
  match text.span isDigit with
  | ([], rest) => .error (.broken rest.isEmpty)
  | digits => .ok digits

def scanFraction : List UInt8 → Except NumberToken (Option (List UInt8) × List UInt8)
  | [] => .ok (none, [])
  | b :: rest =>
    if b = point then (scanDigits rest).map fun (digits, rest) => (some digits, rest)
    else .ok (none, b :: rest)

def scanExponent : List UInt8 → Except NumberToken (Option (Bool × List UInt8) × List UInt8)
  | [] => .ok (none, [])
  | b :: rest =>
    if isExponentMark b then
      let (negative, rest) := scanSign (fun b => b == plus || b == minus) rest
      (scanDigits rest).map fun (digits, rest) => (some (negative, digits), rest)
    else .ok (none, b :: rest)

/-- Reads the longest numeral at the beginning of a text. -/
def scanNumeral (text : List UInt8) : Except NumberToken (Numeral × List UInt8) := do
  let (negative, text) := scanSign (· == minus) text
  let (whole, rest) := text.span isDigit
  if !isWhole whole then throw (.broken (whole.isEmpty && rest.isEmpty))
  let (fraction?, rest) ← scanFraction rest
  let (exponent?, rest) ← scanExponent rest
  return (⟨negative, whole, fraction?, exponent?⟩, rest)

def scanNumber (text : List UInt8) : NumberToken × List UInt8 :=
  match scanNumeral text with
  | .ok (n, rest) => (.numeral n, rest)
  | .error broken => (broken, [])

namespace Numeral

/-- The value of a numeral written without sign, point and exponent. -/
def natural? (n : Numeral) : Option Nat :=
  if n.negative || n.fraction?.isSome || n.exponent?.isSome then none else some (digitsValue n.whole)

/-- Takes digits into a significand of at most 64 bits, and counts those taken. -/
def takeDigits : Nat → Nat → List UInt8 → Nat × Nat
  | significand, taken, [] => (significand, taken)
  | significand, taken, digit :: digits =>
    let grown := 10 * significand + digitValue digit
    if Text.maxUInt64 < grown then (significand, taken) else takeDigits grown (taken + 1) digits

def writtenExponent (n : Numeral) : Int :=
  match n.exponent? with
  | none => 0
  | some (negative, digits) => if negative then -(digitsValue digits) else digitsValue digits

/-- The significand of 64 bits and the power of ten that stand for a numeral as a fraction. Whole
    digits beyond the significand count as zeros, and fraction digits beyond it are dropped. -/
def scaled (n : Numeral) : Nat × Int :=
  let fraction := n.fraction?.getD []
  let (significand, wholeTaken) := takeDigits 0 0 n.whole
  let (significand, fractionTaken) := takeDigits significand 0 fraction
  (significand, (n.whole.length - wholeTaken : Nat) - (fractionTaken : Int) + n.writtenExponent)

/-- The natural number of 53 significant bits nearest to a natural number, the even one of two. -/
def roundTo53 (n : Nat) : Nat :=
  let unit := Nat.pow 2 (n.log2 - 52)
  let quotient := n / unit
  let remainder := n % unit
  if unit < 2 * remainder ∨ (unit = 2 * remainder ∧ quotient % 2 = 1) then (quotient + 1) * unit
  else quotient * unit

/-- The least magnitude that rounds to infinity as a double. -/
def doubleLimit : Nat :=
  Nat.pow 2 1024 - Nat.pow 2 970

/-- Whether the number is too large for a double: its significand times the power of ten, each of
    them rounded, reaches the limit. -/
def overflows (n : Numeral) : Bool :=
  let (significand, power) := n.scaled
  significand != 0 && (308 < power ||
    (0 ≤ power && doubleLimit ≤ roundTo53 significand * roundTo53 (Nat.pow 10 power.toNat)))

end Numeral

/-- The fault of a number where something else is wanted. A number that is too large for a double is
    none at all. -/
def NumberToken.fault : NumberToken → Fault
  | .numeral n => if n.overflows then .malformed else .mismatched
  | .broken atEnd => if atEnd then .truncated else .malformed

end EventRelay.Json
