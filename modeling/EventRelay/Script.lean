namespace EventRelay

/-- Work that proceeds by asking its surroundings, one question after the other. Between two questions
    other work may run; a question is answered in one step. -/
inductive Script (Question : Type) (Answer : Question → Type) (α : Type) where
  | done (value : α)
  | ask (question : Question) (next : Answer question → Script Question Answer α)

namespace Script

variable {Question : Type} {Answer : Question → Type} {α β : Type}

def bind (script : Script Question Answer α) (next : α → Script Question Answer β) :
    Script Question Answer β :=
  match script with
  | done value => next value
  | ask question rest => ask question fun answer => (rest answer).bind next

instance : Monad (Script Question Answer) where
  pure := done
  bind := bind

/-- Asks one question and hands on the answer. -/
def query (question : Question) : Script Question Answer (Answer question) :=
  ask question done

/-- Does the work without interruption, with answers that may have effects of their own. -/
def run {m : Type → Type} [Monad m] (answer : (question : Question) → m (Answer question)) :
    Script Question Answer α → m α
  | done value => pure value
  | ask question next => do (next (← answer question)).run answer

end Script

end EventRelay
