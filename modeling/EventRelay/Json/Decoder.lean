import EventRelay.Json.Document

namespace EventRelay.Json

/-- Reads a value of one shape, from left to right, or reports the first fault. -/
abbrev Decoder (α : Type) := Node → Except Fault α

namespace Node

/-- The fault of a value where one of another shape is wanted. Arrays and objects are refused before
    they are read; other values are read first. -/
def mismatch : Node → Fault
  | .literal _ => .mismatched
  | .brokenLiteral fault => fault
  | .number n => n.fault
  | .string s => match s.text with
    | .ok _ => .mismatched
    | .error fault => fault
  | .array _ _ => .mismatched
  | .object _ _ => .mismatched
  | .missing fault => fault

/-- Passes over a value that nobody asks for. -/
def skip (node : Node) : Except Fault Unit :=
  match node.break? with
  | none => .ok ()
  | some fault => .error fault

end Node

namespace Decoder

def text : Decoder String
  | .string s => s.text
  | node => .error node.mismatch

/-- A natural number of at most `limit`, written without sign, point and exponent. -/
def natural (limit : Nat) : Decoder Nat
  | .number (.numeral n) =>
    match n.natural? with
    | some value => if value ≤ limit then .ok value else .error (Node.number (.numeral n)).mismatch
    | none => .error (Node.number (.numeral n)).mismatch
  | node => .error node.mismatch

def uint32 : Decoder UInt32 := fun node =>
  (natural Text.maxUInt32 node).map Nat.toUInt32

def uint64 : Decoder UInt64 := fun node =>
  (natural Text.maxUInt64 node).map Nat.toUInt64

/-- A value or null. -/
def optional {α : Type} (decoder : Decoder α) : Decoder (Option α)
  | .literal .null => .ok none
  | node => (decoder node).map some

def closed (fault? : Option Fault) : Except Fault Unit :=
  match fault? with
  | none => .ok ()
  | some fault => .error fault

def list {α : Type} (decoder : Decoder α) : Decoder (List α)
  | .array items fault? => do
    let values ← items.mapM decoder
    closed fault?
    return values
  | node => .error node.mismatch

/-- The members of an object by name. -/
def members {α : Type} (decoder : Decoder α) : Decoder (List (String × α))
  | .object members fault? => do
    let values ← members.mapM fun (name, node) => return (← name.text, ← decoder node)
    closed fault?
    return values
  | node => .error node.mismatch

/-- Whether a field of a record may be absent. -/
inductive Presence
  | optional
  /-- Only a record that is written as an object may leave the field out. -/
  | optionalByName
  | required
  deriving DecidableEq, Repr

/-- A field of a record: the names it goes by, whether it may be absent, and how its value changes the
    record. -/
structure Field (σ : Type) where
  names : List String
  presence : Presence
  store : Node → σ → Except Fault σ

namespace Field

def withDefault {σ α : Type} (names : List String) (decoder : Decoder α) (set : α → σ → σ) : Field σ :=
  ⟨names, .optional, fun node record => return set (← decoder node) record⟩

def needed {σ α : Type} (name : String) (decoder : Decoder α) (set : α → σ → σ) : Field σ :=
  ⟨[name], .required, fun node record => return set (← decoder node) record⟩

/-- A field that holds a value or null. -/
def nullable {σ α : Type} (name : String) (decoder : Decoder α) (set : Option α → σ → σ) : Field σ :=
  ⟨[name], .optionalByName, fun node record => return set (← optional decoder node) record⟩

/-- The field that goes by a name, and its place. -/
def lookup? {σ : Type} (fields : List (Field σ)) (name : String) : Option (Field σ × Nat) :=
  fields.zipIdx.find? fun (field, _) => field.names.contains name

/-- Reads the members of an object into a record. `seen` holds the places of the fields met so far; no
    field may be met twice, whatever its name. -/
def storeMembers {σ : Type} (fields : List (Field σ)) :
    List Nat → σ → List (StringToken × Node) → Except Fault (List Nat × σ)
  | seen, record, [] => .ok (seen, record)
  | seen, record, (name, node) :: rest => do
    match lookup? fields (← name.text) with
    | none =>
      node.skip
      storeMembers fields seen record rest
    | some (field, place) =>
      if seen.contains place then .error .mismatched
      else storeMembers fields (place :: seen) (← field.store node record) rest

/-- Whether a required field is not among the places seen. -/
def lacks {σ : Type} (fields : List (Field σ)) (seen : List Nat) : Bool :=
  fields.zipIdx.any fun (field, place) => field.presence == .required && !seen.contains place

/-- Reads the items of an array into a record, field by field in order. -/
def storeItems {σ : Type} : List (Field σ) → Option Fault → σ → List Node → Except Fault σ
  | [], _, _, _ :: _ => .error .malformed
  | _, some fault, _, [] => .error fault
  | fields, none, record, [] =>
    if fields.all (·.presence == .optional) then .ok record else .error .mismatched
  | field :: fields, fault?, record, node :: rest => do
    storeItems fields fault? (← field.store node record) rest

end Field

/-- A record, written as an object or as an array of its fields in order. Fields that are absent keep
    their value in `initial`, unless they are required; names without a field are passed over. -/
def record {σ : Type} (fields : List (Field σ)) (initial : σ) : Decoder σ
  | .object members fault? => do
    let (seen, record) ← Field.storeMembers fields [] initial members
    closed fault?
    if Field.lacks fields seen then .error .mismatched else .ok record
  | .array items fault? => Field.storeItems fields fault? initial items
  | node => .error node.mismatch

/-- Reads a whole text. -/
def run {α : Type} (decoder : Decoder α) (text : List UInt8) : Except Fault α := do
  let document := Document.read text
  let value ← decoder document.root
  if document.trailing then .error .malformed else .ok value

end Decoder

end EventRelay.Json
