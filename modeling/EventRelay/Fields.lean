namespace EventRelay

/-- Named texts. Each name has one value, and the order of the names carries no meaning. -/
structure Fields where
  entries : List (String × String)
  deriving DecidableEq, Repr

namespace Fields

def empty : Fields :=
  ⟨[]⟩

def get? (fields : Fields) (name : String) : Option String :=
  fields.entries.lookup name

/-- The value of a name; a name without one reads as the empty text. -/
def get (fields : Fields) (name : String) : String :=
  (fields.get? name).getD ""

def erase (fields : Fields) (name : String) : Fields :=
  ⟨fields.entries.filter (·.1 != name)⟩

/-- Gives a name a value, in place of the one it may have had. -/
def set (fields : Fields) (name value : String) : Fields :=
  ⟨(fields.erase name).entries ++ [(name, value)]⟩

/-- Of values for one name the last counts. -/
def ofList (entries : List (String × String)) : Fields :=
  entries.foldl (fun fields entry => fields.set entry.1 entry.2) empty

end Fields

end EventRelay
