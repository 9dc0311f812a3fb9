import EventRelay.Board
import EventRelay.Mailbox
import EventRelay.Rule.Reading
import EventRelay.Settings.Environment
import EventRelay.Settings.Error

namespace EventRelay

open Json Decoder

/-- The operator's rules for all sources. -/
structure RulesFile where
  board : Board
  github : List Rule
  mail : MailSection
  deriving DecidableEq, Repr

/-- Names with texts. Of members with one name the last counts. -/
def textMap : Decoder (List (String × String)) := fun node =>
  (members text node).map fun entries => (Fields.ofList entries).entries

def Board.decoder : Decoder Board :=
  record
    [.withDefault ["lists"] textMap fun lists board => { board with lists },
     .withDefault ["rules"] (list Rule.decoder) fun rules board => { board with rules }]
    .empty

def githubDecoder : Decoder (List Rule) :=
  record [.withDefault ["rules"] (list Rule.decoder) fun rules _ => rules] []

def MailAccount.decoder : Decoder MailAccount :=
  record
    [.withDefault ["email"] text fun email account => { account with email },
     .withDefault ["token_env"] (optional text)
       fun tokenVariable? account => { account with tokenVariable? },
     .withDefault ["poll_interval_secs"] (optional uint64)
       fun pollInterval? account => { account with pollInterval? },
     .withDefault ["rules"] (list Rule.decoder) fun rules account => { account with rules }]
    (.unnamed [])

def MailSection.decoder : Decoder MailSection :=
  record
    [.withDefault ["poll_interval_secs"] (optional uint64)
       fun pollInterval? mail => { mail with pollInterval? },
     .withDefault ["accounts"] (list MailAccount.decoder) fun accounts mail => { mail with accounts },
     .withDefault ["rules"] (list Rule.decoder) fun rules mail => { mail with rules }]
    .empty

namespace RulesFile

def empty : RulesFile :=
  ⟨.empty, [], .empty⟩

def decoder : Decoder RulesFile :=
  record
    [.withDefault ["trello"] Board.decoder fun board rules => { rules with board },
     .withDefault ["github"] githubDecoder fun github rules => { rules with github },
     .withDefault ["gmail"] MailSection.decoder fun mail rules => { rules with mail }]
    .empty

/-- Reads the text of a rules file, in which references to variables are replaced first. -/
def parse (environment : Environment) (text : String) : Except ConfigError RulesFile :=
  match decoder.read (Text.Utf8.encode (environment.substitute text).toList) with
  | .ok rules => .ok { rules with mail := rules.mail.normalized }
  | .error problem => .error (.unparsable problem)

/-- The text of a file with that content. -/
def text (content : Except FileError (List UInt8)) : Except FileError String := do
  match Text.Utf8.decode? (← content) with
  | some text => .ok (String.ofList text)
  | none => .error .invalidText

/-- Reads the rules file at a path, given its content or why there is none. Without a file there are no
    rules. -/
def load (environment : Environment) (path : String) (content : Except FileError (List UInt8)) :
    Except ConfigError RulesFile :=
  match text content with
  | .ok text => parse environment text
  | .error .missing => .ok empty
  | .error error => .error (.unreadable path error)

end RulesFile

end EventRelay
