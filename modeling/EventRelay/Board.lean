import EventRelay.Rule

namespace EventRelay

/-- The lists of a board that are watched, by the names that the operator gives them, and the rules
    for its cards. The lists stand in an order that means nothing; several may have one id. -/
structure Board where
  lists : List (String × String)
  rules : List Rule
  deriving DecidableEq, Repr

namespace Board

def empty : Board :=
  ⟨[], []⟩

/-- The operator's name for a list, if it is watched: of several, the first in the order at hand. -/
def listName? (board : Board) (id : String) : Option String :=
  (board.lists.find? (·.2 == id)).map Prod.fst

end Board

end EventRelay
