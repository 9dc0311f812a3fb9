namespace EventRelay.Text

/-- Membership in a list of closed ranges of code points. The ranges may stand in any order. -/
def inRanges (ranges : List (Nat × Nat)) (c : Char) : Bool :=
  ranges.any fun range => range.1 ≤ c.toNat && c.toNat ≤ range.2

/-- The twenty-six capital letters of ASCII. -/
def isAsciiUpper (c : Char) : Bool :=
  'A' ≤ c && c ≤ 'Z'

/-- The twenty-six small letters of ASCII. -/
def isAsciiLower (c : Char) : Bool :=
  'a' ≤ c && c ≤ 'z'

def isAsciiDigit (c : Char) : Bool :=
  '0' ≤ c && c ≤ '9'

def isAsciiAlphanumeric (c : Char) : Bool :=
  isAsciiUpper c || isAsciiLower c || isAsciiDigit c

/-- An ASCII capital becomes its small letter; every other character stays. -/
def asciiLower (c : Char) : Char :=
  if isAsciiUpper c then Char.ofNat (c.toNat + 32) else c

/-- An ASCII small letter becomes its capital; every other character stays. -/
def asciiUpper (c : Char) : Char :=
  if isAsciiLower c then Char.ofNat (c.toNat - 32) else c

end EventRelay.Text
