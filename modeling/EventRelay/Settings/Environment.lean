namespace EventRelay

/-- The variables of the process. A variable that is not set has no value. -/
abbrev Environment := String → Option String

/-- A piece of a text with references to variables. -/
inductive ReferencePiece
  | literal (text : List Char)
  | reference (name : List Char)
  deriving DecidableEq, Repr

namespace ReferencePiece

mutual

/-- Cuts a text whose first characters, last one first, have been found to be literal. -/
def cutLiteral (literal : List Char) : List Char → List ReferencePiece
  | '$' :: '{' :: rest => cutName literal [] rest
  | c :: rest => cutLiteral (c :: literal) rest
  | [] => [.literal literal.reverse]

/-- Cuts a text that begins inside a reference, of which `name` has been read, last character first.
    Without a name, or without an end, it is no reference but literal. -/
def cutName (literal name : List Char) : List Char → List ReferencePiece
  | '}' :: rest =>
    if name = [] then cutLiteral ('}' :: '{' :: '$' :: literal) rest
    else .literal literal.reverse :: .reference name.reverse :: cutLiteral [] rest
  | c :: rest => cutName literal (c :: name) rest
  | [] => [.literal (literal.reverse ++ '$' :: '{' :: name.reverse)]

end

/-- The leftmost references of a text that do not overlap, and what stands between them. -/
def cut (text : List Char) : List ReferencePiece :=
  cutLiteral [] text

/-- A reference to a variable that has a nonempty value becomes the value; any other stays. -/
def expand (environment : Environment) : ReferencePiece → List Char
  | .literal text => text
  | .reference name =>
    match environment (String.ofList name) with
    | some value => if value = "" then '$' :: '{' :: name ++ ['}'] else value.toList
    | none => '$' :: '{' :: name ++ ['}']

end ReferencePiece

/-- The text with its references to variables replaced. Inserted values are not looked at again. -/
def Environment.substitute (environment : Environment) (text : String) : String :=
  String.ofList ((ReferencePiece.cut text.toList).flatMap (ReferencePiece.expand environment))

end EventRelay
