import EventRelay.Json.Byte
import EventRelay.Json.Fault
import EventRelay.Text.Utf8

namespace EventRelay.Json

open Byte

/-- What stands between two quotes, as it is written. If the closing quote was not reached, the fault
    says what was met instead. -/
structure StringToken where
  raw : List UInt8
  fault? : Option Fault
  deriving DecidableEq, Repr

/-- The byte that an escape of one character stands for. -/
def escaped? (b : UInt8) : Option UInt8 :=
  if b = quote ∨ b = backslash ∨ b = 0x2F then some b
  else if b = 0x62 then some 0x08
  else if b = 0x66 then some 0x0C
  else if b = 0x6E then some 0x0A
  else if b = 0x72 then some 0x0D
  else if b = 0x74 then some 0x09
  else none

/-- The number that four hexadecimal digits write. -/
def hexUnit? (a b c d : UInt8) : Option Nat := do
  return (((← hexValue? a) * 16 + (← hexValue? b)) * 16 + (← hexValue? c)) * 16 + (← hexValue? d)

def brokenString (read : List UInt8) (fault : Fault) : StringToken × List UInt8 :=
  (⟨read.reverse, some fault⟩, [])

/-- Reads up to the closing quote. `read` holds the bytes so far, last one first. Neither surrogates
    nor the encoding matter here, as nobody may want to know the text. -/
def scanString (read : List UInt8) : List UInt8 → StringToken × List UInt8
  | [] => brokenString read .truncated
  | b :: rest =>
    if b = quote then (⟨read.reverse, none⟩, rest)
    else if b < 0x20 then brokenString read .malformed
    else if b ≠ backslash then scanString (b :: read) rest
    else match rest with
      | [] => brokenString read .truncated
      | e :: rest =>
        if e = letterU then
          match rest with
          | h₁ :: h₂ :: h₃ :: h₄ :: rest =>
            if (hexUnit? h₁ h₂ h₃ h₄).isSome then
              scanString (h₄ :: h₃ :: h₂ :: h₁ :: e :: b :: read) rest
            else brokenString read .malformed
          | _ => brokenString read .truncated
        else if (escaped? e).isSome then scanString (e :: b :: read) rest
        else brokenString read .malformed

def isLeadingSurrogate (unit : Nat) : Bool :=
  0xD800 ≤ unit && unit ≤ 0xDBFF

def isTrailingSurrogate (unit : Nat) : Bool :=
  0xDC00 ≤ unit && unit ≤ 0xDFFF

/-- The character that a pair of surrogates stands for. -/
def surrogatePair (leading trailing : Nat) : Char :=
  Char.ofNat ((leading - 0xD800) * 0x400 + (trailing - 0xDC00) + 0x10000)

/-- Resolves the escapes of a string. Surrogates have to come in pairs; `atEnd` is the fault of a
    leading one after which the string ends. -/
def unescape (atEnd : Fault) : List UInt8 → Except Fault (List UInt8)
  | [] => .ok []
  | b :: rest =>
    if b ≠ backslash then (unescape atEnd rest).map (b :: ·)
    else match rest with
      | [] => .error .malformed
      | e :: rest =>
        if e ≠ letterU then
          match escaped? e with
          | some c => (unescape atEnd rest).map (c :: ·)
          | none => .error .malformed
        else match rest with
          | h₁ :: h₂ :: h₃ :: h₄ :: rest =>
            match hexUnit? h₁ h₂ h₃ h₄ with
            | none => .error .malformed
            | some unit =>
              if isTrailingSurrogate unit then .error .malformed
              else if isLeadingSurrogate unit then
                match rest with
                | [] => .error atEnd
                | b₂ :: e₂ :: l₁ :: l₂ :: l₃ :: l₄ :: rest =>
                  match hexUnit? l₁ l₂ l₃ l₄ with
                  | some trailing =>
                    if b₂ = backslash ∧ e₂ = letterU ∧ isTrailingSurrogate trailing then
                      (unescape atEnd rest).map
                        (String.utf8EncodeChar (surrogatePair unit trailing) ++ ·)
                    else .error .malformed
                  | none => .error .malformed
                | _ => .error .malformed
              else (unescape atEnd rest).map (String.utf8EncodeChar (Char.ofNat unit) ++ ·)
          | _ => .error .malformed

/-- The text that a string stands for. Its escapes are resolved before its end is looked at, and its
    encoding is checked last. -/
def StringToken.text (token : StringToken) : Except Fault String := do
  let bytes ← unescape (token.fault?.getD .malformed) token.raw
  match token.fault?, Text.Utf8.decode? bytes with
  | some fault, _ => throw fault
  | none, some text => return String.ofList text
  | none, none => throw .malformed

end EventRelay.Json
