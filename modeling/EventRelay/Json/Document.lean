import EventRelay.Json.Token

namespace EventRelay.Json

/-- A value as far as a text holds it. Where the text breaks off, so does the value: arrays and
    objects know the fault that kept them from being closed, and a value of which nothing was read is
    missing. -/
inductive Node
  | literal (l : Literal)
  | brokenLiteral (fault : Fault)
  | number (n : NumberToken)
  | string (s : StringToken)
  | array (items : List Node) (fault? : Option Fault)
  | object (members : List (StringToken × Node)) (fault? : Option Fault)
  | missing (fault : Fault)

namespace Node

/-- The fault that keeps a value from being complete when its contents do not matter. -/
def break? : Node → Option Fault
  | .literal _ => none
  | .brokenLiteral fault => some fault
  | .number (.numeral _) => none
  | .number (.broken _) => some .malformed
  | .string s => s.fault?
  | .array _ fault? => fault?
  | .object _ fault? => fault?
  | .missing fault => some fault

end Node

/-- An array or an object that is still open, around the value being read. -/
inductive Frame
  /-- The items before the value, last one first. -/
  | array (before : List Node)
  /-- The members before the value, last one first, and the value's own name. -/
  | object (before : List (StringToken × Node)) (name : StringToken)

/-- Puts a value into the array or object around it, which cannot be completed any more, and so on
    outwards. -/
def Frame.closeAll (fault : Fault) : List Frame → Node → Node
  | [], node => node
  | .array before :: outer, node =>
    closeAll fault outer (.array (node :: before).reverse (some fault))
  | .object before name :: outer, node =>
    closeAll fault outer (.object ((name, node) :: before).reverse (some fault))

/-- What reading waits for. -/
inductive Expecting
  /-- A value. Right after an opening bracket the array may close instead. -/
  | value (orClose : Bool)
  /-- The name of a member. Right after an opening brace the object may close instead. -/
  | name (before : List (StringToken × Node)) (orClose : Bool)
  /-- The colon after a name. -/
  | colon (before : List (StringToken × Node)) (name : StringToken)
  /-- What follows a value that has been read. -/
  | after (node : Node)

/-- The value that the pieces of a text form, and the pieces after it. A fault ends the reading. -/
def assemble : Expecting → List Frame → List Token → Node × List Token
  | .after node, [], rest => (node, rest)
  | expecting, outer, [] =>
    match expecting with
    | .value _ => (Frame.closeAll .truncated outer (.missing .truncated), [])
    | .name before _ => (Frame.closeAll .truncated outer (.object before.reverse (some .truncated)), [])
    | .colon before name =>
      (Frame.closeAll .truncated (.object before name :: outer) (.missing .truncated), [])
    | .after node => (Frame.closeAll .truncated outer node, [])
  | .value orClose, outer, token :: rest =>
    match token with
    | .literal l => assemble (.after (.literal l)) outer rest
    | .brokenLiteral fault => (Frame.closeAll fault outer (.brokenLiteral fault), [])
    | .number (.numeral n) => assemble (.after (.number (.numeral n))) outer rest
    | .number (.broken atEnd) => (Frame.closeAll .malformed outer (.number (.broken atEnd)), [])
    | .string s =>
      match s.fault? with
      | none => assemble (.after (.string s)) outer rest
      | some fault => (Frame.closeAll fault outer (.string s), [])
    | .openBracket => assemble (.value true) (.array [] :: outer) rest
    | .openBrace => assemble (.name [] true) outer rest
    | .closeBracket =>
      match orClose, outer with
      | true, .array before :: outer => assemble (.after (.array before.reverse none)) outer rest
      | _, outer => (Frame.closeAll .malformed outer (.missing .malformed), [])
    | _ => (Frame.closeAll .malformed outer (.missing .malformed), [])
  | .name before orClose, outer, token :: rest =>
    match token with
    | .string s =>
      match s.fault? with
      | none => assemble (.colon before s) outer rest
      | some fault => (Frame.closeAll fault (.object before s :: outer) (.missing fault), [])
    | .closeBrace =>
      if orClose then assemble (.after (.object before.reverse none)) outer rest
      else (Frame.closeAll .malformed outer (.object before.reverse (some .malformed)), [])
    | _ => (Frame.closeAll .malformed outer (.object before.reverse (some .malformed)), [])
  | .colon before name, outer, token :: rest =>
    match token with
    | .colon => assemble (.value false) (.object before name :: outer) rest
    | _ => (Frame.closeAll .malformed (.object before name :: outer) (.missing .malformed), [])
  | .after node, .array before :: outer, token :: rest =>
    match token with
    | .comma => assemble (.value false) (.array (node :: before) :: outer) rest
    | .closeBracket => assemble (.after (.array (node :: before).reverse none)) outer rest
    | _ => (Frame.closeAll .malformed (.array before :: outer) node, [])
  | .after node, .object before name :: outer, token :: rest =>
    match token with
    | .comma => assemble (.name ((name, node) :: before) false) outer rest
    | .closeBrace => assemble (.after (.object ((name, node) :: before).reverse none)) outer rest
    | _ => (Frame.closeAll .malformed (.object before name :: outer) node, [])

/-- A text read as JSON: its value, and whether anything but blanks follows that. -/
structure Document where
  root : Node
  trailing : Bool

def Document.read (text : List UInt8) : Document :=
  let (root, rest) := assemble (.value false) [] (tokens text)
  ⟨root, !rest.isEmpty⟩

end EventRelay.Json
