import EventRelay.Event
import EventRelay.Text.Blank
import EventRelay.Text.Casing
import EventRelay.Text.Split

namespace EventRelay

open Text

/-- What a rule asks of a mail besides its condition: every one of the labels, and a sender that fits
    one of the patterns. An empty list asks nothing. -/
structure MailMatch where
  senders : List String
  labels : List String
  deriving DecidableEq, Repr

namespace MailMatch

def anything : MailMatch :=
  ⟨[], []⟩

/-- Compares in lower case. A pattern that begins with an asterisk is an ending of the sender, any
    other is a part of it. -/
def senderFits (sender pattern : List Char) : Bool :=
  match lowercase pattern with
  | '*' :: ending => ending.isSuffixOf (lowercase sender)
  | part => contains (lowercase sender) part

/-- The labels of a mail, which its fact joins with commas. -/
def presentLabels (facts : Fields) : List String :=
  ((facts.get Fact.labels).toList.splitOn ',').map fun label => String.ofList (trim label)

def labelsFit (required : MailMatch) (facts : Fields) : Bool :=
  required.labels.all (presentLabels facts).contains

def sendersFit (required : MailMatch) (facts : Fields) : Bool :=
  required.senders.isEmpty ||
    required.senders.any fun pattern => senderFits (facts.get Fact.sender).toList pattern.toList

def holds (required : MailMatch) (facts : Fields) : Bool :=
  required.labelsFit facts && required.sendersFit facts

end MailMatch

end EventRelay
