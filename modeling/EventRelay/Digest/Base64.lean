import EventRelay.Text.CodePoint

namespace EventRelay.Digest.Base64

def digit (n : Nat) : Char :=
  if n < 26 then Char.ofNat (65 + n)
  else if n < 52 then Char.ofNat (71 + n)
  else if n < 62 then Char.ofNat (n - 4)
  else if n = 62 then '+'
  else '/'

def value? (c : Char) : Option Nat :=
  if Text.isAsciiUpper c then some (c.toNat - 65)
  else if Text.isAsciiLower c then some (c.toNat - 71)
  else if Text.isAsciiDigit c then some (c.toNat + 4)
  else if c = '+' then some 62
  else if c = '/' then some 63
  else none

/-- Four digits for every three bytes; the last group is filled up with equals signs. -/
def encode : List UInt8 → List Char
  | [] => []
  | [a] => [digit (a.toNat / 4), digit (a.toNat % 4 * 16), '=', '=']
  | [a, b] =>
    [digit (a.toNat / 4), digit (a.toNat % 4 * 16 + b.toNat / 16), digit (b.toNat % 16 * 4), '=']
  | a :: b :: c :: rest =>
    digit (a.toNat / 4) :: digit (a.toNat % 4 * 16 + b.toNat / 16) ::
      digit (b.toNat % 16 * 4 + c.toNat / 64) :: digit (c.toNat % 64) :: encode rest

/-- Reads groups of four digits. Only the last may hold equals signs, and the bits that they leave
    over must be zero, so that no bytes have two spellings. -/
def decode? : List Char → Option (List UInt8)
  | [] => some []
  | a :: b :: c :: d :: rest => do
    let a ← value? a
    let b ← value? b
    if c = '=' then
      guard (d = '=' ∧ rest = [] ∧ b % 16 = 0)
      return [(a * 4 + b / 16).toUInt8]
    let c ← value? c
    if d = '=' then
      guard (rest = [] ∧ c % 4 = 0)
      return [(a * 4 + b / 16).toUInt8, (b % 16 * 16 + c / 4).toUInt8]
    let d ← value? d
    return (a * 4 + b / 16).toUInt8 :: (b % 16 * 16 + c / 4).toUInt8 :: (c % 4 * 64 + d).toUInt8 ::
      (← decode? rest)
  | _ => none

end EventRelay.Digest.Base64
