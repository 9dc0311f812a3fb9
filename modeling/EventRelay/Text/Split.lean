namespace EventRelay.Text

/-- Puts a character in front of the first piece. -/
def consFirst (c : Char) : List (List Char) → List (List Char)
  | [] => [[c]]
  | piece :: pieces => (c :: piece) :: pieces

/-- The pieces between the leftmost non-overlapping occurrences of a doubled character, as in
    `a||b`. There is always at least one piece. -/
def splitOnPairs (mark : Char) : List Char → List (List Char)
  | c :: d :: rest =>
    if c = mark ∧ d = mark then [] :: splitOnPairs mark rest
    else consFirst c (splitOnPairs mark (d :: rest))
  | text => [text]

/-- What stands before and after the first doubled character, if there is one. -/
def cutAtPair? (mark : Char) : List Char → Option (List Char × List Char)
  | c :: d :: rest =>
    if c = mark ∧ d = mark then some ([], rest)
    else (cutAtPair? mark (d :: rest)).map fun cut => (c :: cut.1, cut.2)
  | _ => none

/-- Whether `part` stands somewhere in `text`; the empty part always does. -/
def contains (text part : List Char) : Bool :=
  part.isPrefixOf text || match text with
    | [] => false
    | _ :: rest => contains rest part

/-- The text without the run of one character at its end. -/
def dropTrailing (c : Char) (text : List Char) : List Char :=
  (text.reverse.dropWhile (· == c)).reverse

/-- Length of the UTF-8 encoding, in bytes. -/
def byteLength : List Char → Nat
  | [] => 0
  | c :: rest => c.utf8Size + byteLength rest

end EventRelay.Text
