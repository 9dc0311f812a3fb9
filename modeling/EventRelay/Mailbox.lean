import EventRelay.Rule
import EventRelay.Text.CodePoint

namespace EventRelay

/-- A mailbox to be polled. -/
structure MailAccount where
  email : String
  tokenVariable? : Option String
  /-- Seconds between two polls. -/
  pollInterval? : Option UInt64
  rules : List Rule
  deriving DecidableEq, Repr

namespace MailAccount

/-- An account without a name of its own. -/
def unnamed (rules : List Rule) : MailAccount :=
  ⟨"", none, none, rules⟩

/-- A character of an address as it can stand in the name of a variable. -/
def variableChar (c : Char) : Char :=
  if Text.isAsciiAlphanumeric c then Text.asciiUpper c else '_'

/-- The variable that holds the access token: the one that the account names, or one made from its
    address. -/
def tokenVariable (account : MailAccount) : String :=
  match account.tokenVariable?.bind nonempty? with
  | some name => name
  | none =>
    if account.email = "" then "GMAIL_TOKEN"
    else "GMAIL_TOKEN_" ++ String.ofList (account.email.toList.map variableChar)

end MailAccount

/-- What the rules file says about mail. -/
structure MailSection where
  pollInterval? : Option UInt64
  accounts : List MailAccount
  /-- Rules of the layout with a single account. -/
  rules : List Rule
  deriving DecidableEq, Repr

namespace MailSection

def empty : MailSection :=
  ⟨none, [], []⟩

/-- Without accounts, rules make an unnamed one. -/
def normalized (mail : MailSection) : MailSection :=
  if mail.accounts.isEmpty && !mail.rules.isEmpty then
    { mail with accounts := [.unnamed mail.rules], rules := [] }
  else mail

/-- Seconds between two polls of an account. The account's interval hides the section's even if it is
    zero; a zero then counts as unset. -/
def interval (mail : MailSection) (account : MailAccount) (fallback : UInt64) : UInt64 :=
  match account.pollInterval?.or mail.pollInterval? with
  | some seconds => if seconds = 0 then fallback else seconds
  | none => fallback

end MailSection

end EventRelay
