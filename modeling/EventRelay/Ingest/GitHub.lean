import EventRelay.Json.Decoder
import EventRelay.Rule
import EventRelay.Settings

namespace EventRelay.GitHub

open Json Decoder

/-- The occurrences that make events. -/
inductive Occurrence
  | checkRun
  | workflowRun
  | review
  deriving DecidableEq, Repr

namespace Occurrence

def all : List Occurrence :=
  [.checkRun, .workflowRun, .review]

/-- The word for the occurrence in the header of a call. -/
def tag : Occurrence → String
  | .checkRun => "check_run"
  | .workflowRun => "workflow_run"
  | .review => "pull_request_review"

def ofTag? (tag : String) : Option Occurrence :=
  all.find? (·.tag == tag)

/-- The action that ends an occurrence; only then it is reported. -/
def terminalAction : Occurrence → String
  | .checkRun | .workflowRun => "completed"
  | .review => "submitted"

end Occurrence

structure PullRequest where
  number : UInt64
  title : String
  deriving DecidableEq, Repr

/-- A run of checks or of a workflow. -/
structure Run where
  conclusion? : Option String
  pullRequests : List PullRequest
  deriving DecidableEq, Repr

/-- The part of a call that matters. -/
structure Call where
  action : String
  repository : String
  pullRequest : PullRequest
  checkRun : Run
  workflowRun : Run
  deriving DecidableEq, Repr

def PullRequest.blank : PullRequest :=
  ⟨0, ""⟩

def Run.blank : Run :=
  ⟨none, []⟩

def Call.blank : Call :=
  ⟨"", "", .blank, .blank, .blank⟩

def repositoryDecoder : Decoder String :=
  record [.withDefault ["full_name"] text fun name _ => name] ""

def PullRequest.decoder : Decoder PullRequest :=
  record
    [.withDefault ["number"] uint64 fun number pullRequest => { pullRequest with number },
     .withDefault ["title"] text fun title pullRequest => { pullRequest with title }]
    .blank

def Run.decoder : Decoder Run :=
  record
    [.withDefault ["conclusion"] (optional text) fun conclusion? run => { run with conclusion? },
     .withDefault ["pull_requests"] (list PullRequest.decoder)
       fun pullRequests run => { run with pullRequests }]
    .blank

def Call.decoder : Decoder Call :=
  record
    [.withDefault ["action"] text fun action call => { call with action },
     .withDefault ["repository"] repositoryDecoder fun repository call => { call with repository },
     .withDefault ["pull_request"] PullRequest.decoder
       fun pullRequest call => { call with pullRequest },
     .withDefault ["check_run"] Run.decoder fun checkRun call => { call with checkRun },
     .withDefault ["workflow_run"] Run.decoder fun workflowRun call => { call with workflowRun }]
    .blank

namespace Call

/-- Where the number of the pull request is looked for, in order. -/
def numbers (call : Call) : List UInt64 :=
  [call.pullRequest.number] ++ call.checkRun.pullRequests.head?.toList.map (·.number) ++
    call.workflowRun.pullRequests.head?.toList.map (·.number)

/-- The first number that is not zero; without one, zero. -/
def pullRequestNumber (call : Call) : UInt64 :=
  (call.numbers.find? (· != 0)).getD 0

/-- How the run of an occurrence ended. Reviews have no run. -/
def conclusion (call : Call) : Occurrence → String
  | .checkRun => call.checkRun.conclusion?.getD ""
  | .workflowRun => call.workflowRun.conclusion?.getD ""
  | .review => ""

def toEvent (call : Call) (occurrence : Occurrence) : Event :=
  let number := Text.natText call.pullRequestNumber.toNat
  let conclusion := call.conclusion occurrence
  { source := .ciResult
    kind := occurrence.tag
    subject := number
    discriminator := occurrence.tag
    label := "github " ++ occurrence.tag ++ "/" ++ call.action ++ " PR#" ++ number
    facts := .ofList
      [(Fact.event, occurrence.tag), (Fact.action, call.action), (Fact.conclusion, conclusion),
       (Fact.repository, call.repository)]
    fields := .ofList
      [("Event", occurrence.tag), ("Action", call.action), ("Repository", call.repository),
       ("PR", number), ("Title", call.pullRequest.title), ("Conclusion", conclusion)] }

/-- A finished occurrence, unless it succeeded and only failures are wanted. -/
def event? (call : Call) (occurrence : Occurrence) (mode : NotifyMode) : Option Event :=
  if call.action ≠ occurrence.terminalAction then none
  else if mode = .failures ∧ call.conclusion occurrence = "success" then none
  else some (call.toEvent occurrence)

end Call

/-- The event that a call makes. `tag` is the word in its header; the body is read only if that word
    is known. -/
def event? (tag : String) (mode : NotifyMode) (body : List UInt8) : Option Event :=
  match Occurrence.ofTag? tag with
  | none => none
  | some occurrence =>
    match Call.decoder.run body with
    | .ok call => call.event? occurrence mode
    | .error _ => none

/-- A rule for each occurrence that takes every event of it and leaves the action to the source. -/
def defaultRules : List Rule :=
  Occurrence.all.map fun occurrence =>
    ⟨"github-" ++ occurrence.tag, occurrence.tag, .always, .anything, .unset⟩

end EventRelay.GitHub
