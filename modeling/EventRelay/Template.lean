import EventRelay.Fields
import EventRelay.Text.Alphanumeric
import EventRelay.Text.Blank
import EventRelay.Text.Quoted
import EventRelay.Text.Split

namespace EventRelay.Template

open Text

/-- Why a template cannot be rendered. -/
inductive Error
  /-- An action with no end; the position is that of its first brace, in bytes. -/
  | unclosed (position : Nat)
  | unsupported (action : List Char)
  /-- A field of a field was asked for, but values are plain texts. -/
  | fieldOfText (name : List Char)
  deriving DecidableEq, Repr

def Error.message : Error → String
  | .unclosed position => "unclosed action starting at byte " ++ natText position
  | .unsupported action => "unsupported action " ++ quoted action
  | .fieldOfText name => "can't evaluate field " ++ String.ofList name ++ " in type string"

/-- A text cut into literal parts and the actions between them. An action opens at the first doubled
    brace after the action before, and closes at the first doubled brace after its opening. -/
inductive Cut
  | tail (literal : List Char)
  | unclosed (literal : List Char)
  | action (literal action : List Char) (rest : Cut)

mutual

/-- Cuts a text whose first characters, last one first, have been found to be literal. -/
def cutLiteral (literal : List Char) : List Char → Cut
  | '{' :: '{' :: rest => cutAction literal.reverse [] rest
  | c :: rest => cutLiteral (c :: literal) rest
  | [] => .tail literal.reverse

/-- Cuts a text that begins inside an action, of which `action` has been read, last character first. -/
def cutAction (literal action : List Char) : List Char → Cut
  | '}' :: '}' :: rest => .action literal action.reverse (cutLiteral [] rest)
  | c :: rest => cutAction literal (c :: action) rest
  | [] => .unclosed literal

end

def cut (text : List Char) : Cut :=
  cutLiteral [] text

/-- An action between its markers. -/
structure Marked where
  /-- A leading marker strips the blanks before the action. -/
  stripsBefore : Bool
  /-- A trailing marker strips the blanks after it. -/
  stripsAfter : Bool
  action : List Char
  deriving DecidableEq, Repr

/-- Takes off a leading marker first and a trailing one from what is left, so that a single dash
    serves as one marker only. -/
def readMarkers (action : List Char) : Marked :=
  let (stripsBefore, action) :=
    match ['-', ' '].isPrefixOf? action with
    | some rest => (true, rest)
    | none => (false, action)
  match [' ', '-'].isSuffixOf? action with
  | some rest => ⟨stripsBefore, true, trim rest⟩
  | none => ⟨stripsBefore, false, trim action⟩

inductive Segment
  | text (literal : List Char)
  | field (path : List (List Char))
  deriving DecidableEq, Repr

def isNameChar (c : Char) : Bool :=
  isAlphanumeric c || c == '_'

def isComment (action : List Char) : Bool :=
  ['/', '*'].isPrefixOf action && ['*', '/'].isSuffixOf action

/-- The names of a path such as `.A.B`, each of them nonempty. -/
def readPath? : List Char → Option (List (List Char))
  | '.' :: path =>
    let names := path.splitOn '.'
    if names.all fun name => !name.isEmpty && name.all isNameChar then some names else none
  | _ => none

/-- What an action stands for; a comment stands for nothing. -/
def readAction (action : List Char) : Except Error (Option Segment) :=
  if isComment action then .ok none
  else match readPath? action with
    | some names => .ok (some (.field names))
    | none => .error (.unsupported action)

/-- A segment for a text, unless it is empty. -/
def literalSegment (text : List Char) : List Segment :=
  if text = [] then [] else [.text text]

def strippedIf (strips : Bool) (literal : List Char) : List Char :=
  if strips then trimStart literal else literal

/-- Reads the actions of a cut in order. `text` is the literal text since the last field, and
    `offset` counts the bytes before the cut. A comment leaves the text open, so that a marker after
    it still reaches back to the last field. -/
def assemble (strips : Bool) (text : List Char) (offset : Nat) : Cut → Except Error (List Segment)
  | .tail literal => .ok (literalSegment (text ++ strippedIf strips literal))
  | .unclosed literal => .error (.unclosed (offset + byteLength literal))
  | .action literal action rest => do
    let marked := readMarkers action
    let text := text ++ strippedIf strips literal
    let text := if marked.stripsBefore then trimEnd text else text
    let offset := offset + byteLength literal + 2 + byteLength action + 2
    match ← readAction marked.action with
    | none => assemble marked.stripsAfter text offset rest
    | some segment =>
      return literalSegment text ++ segment :: (← assemble marked.stripsAfter [] offset rest)

def parse (source : List Char) : Except Error (List Segment) :=
  assemble false [] 0 (cut source)

/-- The text of a segment. A field without a value is empty. -/
def Segment.expand (fields : Fields) : Segment → Except Error (List Char)
  | .text literal => .ok literal
  | .field (_ :: name :: _) => .error (.fieldOfText name)
  | .field [name] => .ok (fields.get (String.ofList name)).toList
  | .field [] => .ok []

def execute (fields : Fields) : List Segment → Except Error (List Char)
  | [] => .ok []
  | segment :: rest => do
    let head ← segment.expand fields
    return head ++ (← execute fields rest)

def evaluate (source : List Char) (fields : Fields) : Except Error (List Char) :=
  parse source >>= execute fields

/-- The template with its fields filled in. A template that cannot be rendered stands for itself. -/
def render (source : String) (fields : Fields) : String :=
  match evaluate source.toList fields with
  | .ok text => String.ofList text
  | .error _ => source

end EventRelay.Template
