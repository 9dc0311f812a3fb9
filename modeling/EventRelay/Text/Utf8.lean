namespace EventRelay.Text.Utf8

/-- A character of which some bytes have been read: the bits so far, how many bytes are missing, and
    the bounds of the next one. The bounds shut out overlong forms, surrogates and what lies beyond
    the last code point. -/
structure Unfinished where
  bits : Nat
  missing : Nat
  low : UInt8
  high : UInt8
  deriving DecidableEq, Repr

inductive Lead
  | ascii (c : Char)
  | opens (u : Unfinished)
  | invalid

/-- What a byte means where a character begins. -/
def lead (b : UInt8) : Lead :=
  if b < 0x80 then .ascii (Char.ofNat b.toNat)
  else if 0xC2 ≤ b ∧ b ≤ 0xDF then .opens ⟨b.toNat - 0xC0, 1, 0x80, 0xBF⟩
  else if b = 0xE0 then .opens ⟨0, 2, 0xA0, 0xBF⟩
  else if b = 0xED then .opens ⟨0xD, 2, 0x80, 0x9F⟩
  else if 0xE1 ≤ b ∧ b ≤ 0xEF then .opens ⟨b.toNat - 0xE0, 2, 0x80, 0xBF⟩
  else if b = 0xF0 then .opens ⟨0, 3, 0x90, 0xBF⟩
  else if 0xF1 ≤ b ∧ b ≤ 0xF3 then .opens ⟨b.toNat - 0xF0, 3, 0x80, 0xBF⟩
  else if b = 0xF4 then .opens ⟨4, 3, 0x80, 0x8F⟩
  else .invalid

def Unfinished.accepts (u : Unfinished) (b : UInt8) : Bool :=
  u.low ≤ b && b ≤ u.high

def Unfinished.push (u : Unfinished) (b : UInt8) : Unfinished :=
  ⟨u.bits * 64 + (b.toNat - 0x80), u.missing - 1, 0x80, 0xBF⟩

def Unfinished.char (u : Unfinished) : Char :=
  Char.ofNat u.bits

def decodeFrom? : Option Unfinished → List UInt8 → Option (List Char)
  | none, [] => some []
  | some _, [] => none
  | none, b :: rest =>
    match lead b with
    | .ascii c => (decodeFrom? none rest).map (c :: ·)
    | .opens u => decodeFrom? (some u) rest
    | .invalid => none
  | some u, b :: rest =>
    if u.accepts b then
      if u.missing = 1 then (decodeFrom? none rest).map ((u.push b).char :: ·)
      else decodeFrom? (some (u.push b)) rest
    else none

/-- The characters that a sequence of bytes encodes, if it is well-formed UTF-8. -/
def decode? (bytes : List UInt8) : Option (List Char) :=
  decodeFrom? none bytes

def replacement : Char := Char.ofNat 0xFFFD

/-- What the byte after a broken character yields, as the start of a new one. -/
def restart (b : UInt8) (resume : Option Unfinished → List Char) : List Char :=
  match lead b with
  | .ascii c => c :: resume none
  | .opens u => resume (some u)
  | .invalid => replacement :: resume none

def decodeLossyFrom : Option Unfinished → List UInt8 → List Char
  | none, [] => []
  | some _, [] => [replacement]
  | none, b :: rest => restart b (decodeLossyFrom · rest)
  | some u, b :: rest =>
    if u.accepts b then
      if u.missing = 1 then (u.push b).char :: decodeLossyFrom none rest
      else decodeLossyFrom (some (u.push b)) rest
    else replacement :: restart b (decodeLossyFrom · rest)

/-- As `decode?`, with one replacement character for each longest piece that begins a character and
    does not go on to end it. -/
def decodeLossy (bytes : List UInt8) : List Char :=
  decodeLossyFrom none bytes

def encode (text : List Char) : List UInt8 :=
  text.flatMap String.utf8EncodeChar

end EventRelay.Text.Utf8
