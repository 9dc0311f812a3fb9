import EventRelay.Fields
import EventRelay.Text.Blank
import EventRelay.Text.Split

namespace EventRelay

open Text

/-- One alternative of a condition. A piece that is no equality is kept with its text and never
    holds. -/
inductive Clause
  | equals (fact literal : String)
  | malformed (text : String)
  deriving DecidableEq, Repr

namespace Clause

/-- The characters of a fact's name in a condition. -/
def isFactChar (c : Char) : Bool :=
  isAsciiAlphanumeric c || c == '_' || c == '-' || c == '.'

/-- The text between two single quotes that are its only ones. -/
def unquote? : List Char → Option (List Char)
  | '\'' :: rest =>
    let literal := rest.takeWhile (· != '\'')
    if rest = literal ++ ['\''] then some literal else none
  | _ => none

/-- The two sides of `fact == 'literal'`. The first doubled equals sign parts them. -/
def readEquality? (text : List Char) : Option (List Char × List Char) := do
  let (left, right) ← cutAtPair? '=' text
  let fact := trim left
  guard (fact ≠ [] ∧ fact.all isFactChar)
  let literal ← unquote? (trim right)
  return (fact, literal)

def parse (piece : List Char) : Clause :=
  match readEquality? (trim piece) with
  | some (fact, literal) => .equals (String.ofList fact) (String.ofList literal)
  | none => .malformed (String.ofList (trim piece))

/-- An equality compares character for character, and a fact without a value is the empty text. -/
def holds (facts : Fields) : Clause → Bool
  | .equals fact literal => facts.get fact == literal
  | .malformed _ => false

end Clause

/-- Alternatives of which one has to hold; without any the condition always holds. -/
structure Condition where
  clauses : List Clause
  deriving DecidableEq, Repr

namespace Condition

def always : Condition :=
  ⟨[]⟩

/-- Doubled bars part the alternatives, also inside quotes. Only a blank text has none. -/
def parse (text : String) : Condition :=
  if trim text.toList = [] then always
  else ⟨(splitOnPairs '|' text.toList).map Clause.parse⟩

def isEmpty (condition : Condition) : Bool :=
  condition.clauses.isEmpty

def holds (condition : Condition) (facts : Fields) : Bool :=
  condition.isEmpty || condition.clauses.any (Clause.holds facts)

end Condition

end EventRelay
