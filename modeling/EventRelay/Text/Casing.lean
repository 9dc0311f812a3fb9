import EventRelay.Text.CodePoint
import EventRelay.Text.Casing.Ranges

namespace EventRelay.Text

/-- The image of a code point under the run that holds it, if one does. -/
def lowercaseImage? (n : Nat) : Option Nat :=
  (lowercaseRuns.find? fun (first, last, step, _) =>
    first ≤ n && n ≤ last && (n - first) % step == 0).map fun (first, _, _, image) => image + (n - first)

/-- The lower case of a character outside any context. One capital, I with a dot above, has a lower
    case of two characters. -/
def lowercaseChar (c : Char) : List Char :=
  if c.toNat < 0x80 then [asciiLower c]
  else if c.toNat = 0x130 then ['i', '\u0307']
  else match lowercaseImage? c.toNat with
    | some image => [Char.ofNat image]
    | none => [c]

def isCased (c : Char) : Bool :=
  isAsciiUpper c || isAsciiLower c || inRanges casedRanges c

def isCaseIgnorable (c : Char) : Bool :=
  c == '\'' || c == '.' || c == ':' || c == '^' || c.toNat == 0x60 || inRanges caseIgnorableRanges c

/-- Whether the next character that case does not ignore is a cased one. -/
def casedFollows (text : List Char) : Bool :=
  match text.dropWhile isCaseIgnorable with
  | [] => false
  | c :: _ => isCased c

def capitalSigma : Char := Char.ofNat 0x3A3

def smallSigma : Char := Char.ofNat 0x3C3

def finalSigma : Char := Char.ofNat 0x3C2

/-- The lower case of a character after `before`, nearest character first, and ahead of `after`. Only
    a capital sigma looks at its neighbours: at the end of a word it becomes a final sigma. -/
def lowercaseIn (before : List Char) (c : Char) (after : List Char) : List Char :=
  if c = capitalSigma then
    [if casedFollows before && !casedFollows after then finalSigma else smallSigma]
  else lowercaseChar c

def lowercaseAfter : List Char → List Char → List Char
  | _, [] => []
  | before, c :: after => lowercaseIn before c after ++ lowercaseAfter (c :: before) after

/-- The lower case of a text by the full Unicode mapping. -/
def lowercase (text : List Char) : List Char :=
  lowercaseAfter [] text

end EventRelay.Text
