import EventRelay.Proofs.Mailbox.Log
import EventRelay.Proofs.Poller.Cursor

namespace EventRelay.Poller

open Script

/-- A start or a tick that was begun, with the poller that began it and with what has been asked and
answered so far. It may have been cut off anywhere. -/
structure Attempt where
  poller : Poller
  trace : List (Sigma Effect.Answer)

inductive Activity
  | down
  | idle (poller : Poller)
  | busy (rest : RelayM Poller)

/-- The mailbox of an account, its saved position, what the relay is doing for the account, and all
attempts, the latest first. -/
structure World where
  mailbox : MailLog
  saved : Option UInt64
  activity : Activity
  attempts : List Attempt

/-- An answer that the surroundings can give: the mailbox reports what it holds whenever it reports
something, it never says that a position expired, and a load does not fail. -/
structure Answers (account : String) (mailbox : MailLog) (exchange : Sigma Effect.Answer) :
    Prop where
  highWater : ∀ position, exchange = ⟨.highWater account, .ok position⟩ → position = mailbox.head
  history : ∀ position page, exchange = ⟨.historySince account position, .ok page⟩ →
    page = mailbox.pageSince position
  unexpired : ∀ position error, exchange = ⟨.historySince account position, .error error⟩ →
    error.isExpired = false
  loaded : ∀ error, exchange ≠ ⟨.loadCursor account, .error error⟩

/-- The steps of a world. The mailbox moves at any time, a poller that has been made starts once and
then ticks, its questions are answered one by one, and the relay can go down between any two steps. -/
inductive Step (account : String) : World → World → Prop
  | advance {mailbox : MailLog} {saved : Option UInt64} {activity : Activity}
      {attempts : List Attempt} (position : UInt64) (message? : Option MailMessage)
      (hposition : mailbox.head < position) :
      Step account ⟨mailbox, saved, activity, attempts⟩
        ⟨mailbox.advance position message? hposition, saved, activity, attempts⟩
  | start {mailbox : MailLog} {saved : Option UInt64} {attempts : List Attempt}
      (rules : List Rule) :
      Step account ⟨mailbox, saved, .down, attempts⟩
        ⟨mailbox, saved, .busy (Poller.new account rules).start,
          ⟨Poller.new account rules, []⟩ :: attempts⟩
  | tick {mailbox : MailLog} {saved : Option UInt64} {attempts : List Attempt} (poller : Poller) :
      Step account ⟨mailbox, saved, .idle poller, attempts⟩
        ⟨mailbox, saved, .busy (poller.tick.bind fun result => .done result.2),
          ⟨poller, []⟩ :: attempts⟩
  | answer {mailbox : MailLog} {saved saved' : Option UInt64} {question : Effect}
      {next : question.Answer → RelayM Poller} {poller : Poller}
      {trace : List (Sigma Effect.Answer)} {attempts : List Attempt} (answer : question.Answer)
      (hanswers : Answers account mailbox ⟨question, answer⟩)
      (hcursor : CursorStep account saved ⟨question, answer⟩ saved') :
      Step account ⟨mailbox, saved, .busy (.ask question next), ⟨poller, trace⟩ :: attempts⟩
        ⟨mailbox, saved', .busy (next answer),
          ⟨poller, trace ++ [⟨question, answer⟩]⟩ :: attempts⟩
  | finish {mailbox : MailLog} {saved : Option UInt64} {attempts : List Attempt}
      (poller : Poller) :
      Step account ⟨mailbox, saved, .busy (.done poller), attempts⟩
        ⟨mailbox, saved, .idle poller, attempts⟩
  | crash {mailbox : MailLog} {saved : Option UInt64} {activity : Activity}
      {attempts : List Attempt} :
      Step account ⟨mailbox, saved, activity, attempts⟩ ⟨mailbox, saved, .down, attempts⟩

/-- An attempt has passed on what arrived after the position that it tracks and before a message, and
then the message itself. -/
def Attempt.PassedOn (account : String) (mailbox : MailLog) (position : UInt64)
    (message : MailMessage) (attempt : Attempt) : Prop :=
  ∃ tracked page earlier passage outcome,
    attempt.poller.account = account ∧ attempt.poller.state = .tracking tracked ∧
    tracked < position ∧
    (attempt.poller.processAll
      (mailbox.select fun other => tracked < other && other < position)).Returns earlier () ∧
    (Pipeline.process (message.toEvent account) attempt.poller.rules).Returns passage outcome ∧
    ⟨.historySince account tracked, .ok page⟩ :: (earlier ++ passage) <+: attempt.trace

def World.PassedOn (account : String) (position : UInt64) (message : MailMessage) (world : World) :
    Prop :=
  ∃ attempt ∈ world.attempts, attempt.PassedOn account world.mailbox position message

end EventRelay.Poller
