import EventRelay.Proofs.Choice
import EventRelay.Proofs.Ingest.GitHubKeys
import EventRelay.Proofs.Json.Record

namespace EventRelay

open Json Decoder Field Pipeline

namespace GitHub

/-- A pull request, as it is spelled. -/
structure PullRequest.IsSpelled (node : Node) (pullRequest : PullRequest) : Prop where
  number : node.Gives ["number"] 0 (uint64 · = .ok ·) 0 pullRequest.number
  title : node.Gives ["title"] 1 (text · = .ok ·) "" pullRequest.title

theorem PullRequest.isSpelled_of_decoder {node : Node} {pullRequest : PullRequest}
    (hread : PullRequest.decoder node = .ok pullRequest) : pullRequest.IsSpelled node where
  number := record_gives hread 0 (·.number)
    ⟨rfl, sets_withDefault fun _ _ => rfl, by simp [keeps_withDefault], by decide⟩
  title := record_gives hread 1 (·.title)
    ⟨rfl, sets_withDefault fun _ _ => rfl, by simp [keeps_withDefault], by decide⟩

/-- A run, as it is spelled. A conclusion may be null. -/
structure Run.IsSpelled (node : Node) (run : Run) : Prop where
  conclusion : node.Gives ["conclusion"] 0 (Node.Optionally (text · = .ok ·)) none run.conclusion?
  pullRequests : node.Gives ["pull_requests"] 1
    (Node.Lists fun node pullRequest => pullRequest.IsSpelled node) [] run.pullRequests

theorem Run.isSpelled_of_decoder {node : Node} {run : Run} (hread : Run.decoder node = .ok run) :
    run.IsSpelled node where
  conclusion := by
    have hgives := record_gives hread 0 (·.conclusion?)
      ⟨rfl, sets_withDefault fun _ _ => rfl, by simp [keeps_withDefault], by decide⟩
    exact hgives.imp fun _ => Node.optionally_decoder
  pullRequests := by
    have hgives := record_gives hread 1 (·.pullRequests)
      ⟨rfl, sets_withDefault fun _ _ => rfl, by simp [keeps_withDefault], by decide⟩
    exact hgives.imp fun _ =>
      Node.lists_of_decoder fun _ _ => PullRequest.isSpelled_of_decoder

/-- A call, as its body spells it. -/
structure Call.IsSpelled (node : Node) (call : Call) : Prop where
  action : node.Gives ["action"] 0 (text · = .ok ·) "" call.action
  repository : node.Gives ["repository"] 1
    (fun node name => node.Gives ["full_name"] 0 (text · = .ok ·) "" name) "" call.repository
  pullRequest : node.Gives ["pull_request"] 2 (fun node pullRequest => pullRequest.IsSpelled node)
    .blank call.pullRequest
  checkRun : node.Gives ["check_run"] 3 (fun node run => run.IsSpelled node) .blank call.checkRun
  workflowRun : node.Gives ["workflow_run"] 4 (fun node run => run.IsSpelled node) .blank
    call.workflowRun

theorem repository_of_decoder {node : Node} {name : String}
    (hread : repositoryDecoder node = .ok name) :
    node.Gives ["full_name"] 0 (text · = .ok ·) "" name :=
  record_gives hread 0 id
    ⟨rfl, sets_withDefault fun _ _ => rfl, by simp, by decide⟩

theorem Call.isSpelled_of_decoder {node : Node} {call : Call} (hread : Call.decoder node = .ok call) :
    call.IsSpelled node where
  action := record_gives hread 0 (·.action)
    ⟨rfl, sets_withDefault fun _ _ => rfl, by simp [keeps_withDefault], by decide⟩
  repository := by
    have hgives := record_gives hread 1 (·.repository)
      ⟨rfl, sets_withDefault fun _ _ => rfl, by simp [keeps_withDefault], by decide⟩
    exact hgives.imp fun _ => repository_of_decoder
  pullRequest := by
    have hgives := record_gives hread 2 (·.pullRequest)
      ⟨rfl, sets_withDefault fun _ _ => rfl, by simp [keeps_withDefault], by decide⟩
    exact hgives.imp fun _ => PullRequest.isSpelled_of_decoder
  checkRun := by
    have hgives := record_gives hread 3 (·.checkRun)
      ⟨rfl, sets_withDefault fun _ _ => rfl, by simp [keeps_withDefault], by decide⟩
    exact hgives.imp fun _ => Run.isSpelled_of_decoder
  workflowRun := by
    have hgives := record_gives hread 4 (·.workflowRun)
      ⟨rfl, sets_withDefault fun _ _ => rfl, by simp [keeps_withDefault], by decide⟩
    exact hgives.imp fun _ => Run.isSpelled_of_decoder

/-- The word for the action that an occurrence must have ended with. -/
def endings : List (String × String) :=
  [("check_run", "completed"), ("workflow_run", "completed"), ("pull_request_review", "submitted")]

theorem mem_endings_iff {tag terminal : String} : (tag, terminal) ∈ endings ↔
    ∃ occurrence : Occurrence, tag = occurrence.tag ∧ terminal = occurrence.terminalAction := by
  have hendings : endings = Occurrence.all.map fun occurrence =>
    (occurrence.tag, occurrence.terminalAction) := rfl
  rw [hendings, List.mem_map]
  constructor
  · rintro ⟨occurrence, -, heq⟩
    obtain ⟨rfl, rfl⟩ := Prod.mk.inj heq
    exact ⟨occurrence, rfl, rfl⟩
  · rintro ⟨occurrence, rfl, rfl⟩
    exact ⟨occurrence, by cases occurrence <;> decide, rfl⟩

/-- What the event of a call says. The number of the pull request is looked for at the call itself, then
at the first pull request of each of the two runs. -/
structure Call.Reports (call : Call) (tag : String) (event : Event) : Prop where
  kind : event.kind = tag
  discriminator : event.discriminator = tag
  tagFact : event.facts.get? "event" = some tag
  subject : event.subject = toString (firstSet 0 (call.pullRequest.number ::
    (call.checkRun.pullRequests.head?.toList ++ call.workflowRun.pullRequests.head?.toList).map
      (·.number))).toNat
  number : event.fields.get? "PR" = some event.subject
  /-- A run of the other kind has no say in the conclusion. -/
  checkRun : tag = "check_run" →
    event.facts.get? "conclusion" = some (call.checkRun.conclusion?.getD "")
  workflowRun : tag = "workflow_run" →
    event.facts.get? "conclusion" = some (call.workflowRun.conclusion?.getD "")
  review : tag = "pull_request_review" → event.facts.get? "conclusion" = some ""

theorem Call.reports_toEvent (call : Call) (occurrence : Occurrence) :
    call.Reports occurrence.tag (call.toEvent occurrence) where
  kind := rfl
  discriminator := rfl
  tagFact := rfl
  subject := by
    rw [firstSet_eq_find?, List.map_append]
    rfl
  number := rfl
  checkRun htag := by
    obtain rfl : occurrence = .checkRun := Occurrence.tag_inj.1 htag
    rfl
  workflowRun htag := by
    obtain rfl : occurrence = .workflowRun := Occurrence.tag_inj.1 htag
    rfl
  review htag := by
    obtain rfl : occurrence = .review := Occurrence.tag_inj.1 htag
    rfl

theorem event?_eq_some_iff {tag : String} {mode : NotifyMode} {body : List UInt8} {event : Event} :
    event? tag mode body = some event ↔ ∃ (occurrence : Occurrence) (call : Call),
      tag = occurrence.tag ∧ Call.decoder.run body = .ok call ∧
        call.action = occurrence.terminalAction ∧
        ¬ (mode = .failures ∧ call.conclusion occurrence = "success") ∧
        event = call.toEvent occurrence := by
  constructor
  · intro hevent
    cases htag : Occurrence.ofTag? tag with
    | none => simp [event?, htag] at hevent
    | some occurrence =>
      cases hcall : Call.decoder.run body with
      | error fault => simp [event?, htag, hcall] at hevent
      | ok call =>
        simp only [event?_eq htag hcall, Call.event?, Option.ite_none_left_eq_some, not_not,
          Option.some.injEq] at hevent
        obtain ⟨haction, hwanted, rfl⟩ := hevent
        exact ⟨occurrence, call, Occurrence.ofTag?_eq_some_iff.1 htag, rfl, haction, hwanted, rfl⟩
  · rintro ⟨occurrence, call, htag, hcall, haction, hwanted, rfl⟩
    rw [event?_eq (Occurrence.ofTag?_eq_some_iff.2 htag) hcall, Call.event?,
      if_neg (not_not_intro haction), if_neg hwanted]

/-- Outside of failures mode successes are reported as well. -/
theorem event?_failures (tag : String) (body : List UInt8) :
    event? tag .failures body = (event? tag .all body).filter
      fun event => event.facts.get? "conclusion" ≠ some "success" := by
  refine Option.ext fun event => ?_
  rw [Option.filter_eq_some_iff, event?_eq_some_iff, event?_eq_some_iff, decide_eq_true_iff]
  constructor
  · rintro ⟨occurrence, call, htag, hcall, haction, hwanted, rfl⟩
    refine ⟨⟨occurrence, call, htag, hcall, haction, nofun, rfl⟩, ?_⟩
    intro hfact
    exact hwanted ⟨rfl, Option.some.inj hfact⟩
  · rintro ⟨⟨occurrence, call, htag, hcall, haction, -, rfl⟩, hfact⟩
    refine ⟨occurrence, call, htag, hcall, haction, ?_, rfl⟩
    rintro ⟨-, hsuccess⟩
    exact hfact (congrArg some hsuccess)

/-- What becomes of an event when only the built-in rules apply. -/
structure PassedOn (setting : Setting) (event : Event) (before : Scene) (outcome : Outcome)
    (after : Scene) : Prop where
  judged : Judged setting event defaultRules before outcome after
  matched : outcome ≠ .noMatch
  passed : outcome ≠ .suppressed → ∃ rule ∈ defaultRules, rule.Fits event ∧
    outcome = afterReply (setting.gateway (rule.actionFor event)) ∧
    after.calls = before.calls ++ [rule.actionFor event]

/-- What GitHub's calls of a type and with a body come to. -/
structure Characterised (tag : String) (body : List UInt8) : Prop where
  isSome_iff : (event? tag .all body).isSome ↔ ∃ call terminal, (tag, terminal) ∈ endings ∧
    Call.decoder.run body = .ok call ∧ call.action = terminal
  reports : ∀ call, Call.decoder.run body = .ok call → call.IsSpelled (Document.read body).root ∧
    ∀ event, event? tag .all body = some event → call.Reports tag event
  failures : event? tag .failures body = (event? tag .all body).filter
    fun event => event.facts.get? "conclusion" ≠ some "success"
  passed : ∀ (board : Board) (mode : NotifyMode) (event : Event),
    (PushIngest.new board [] mode).event? .github body tag = some event →
      ∀ (setting : Setting) (scene : Scene), ∃ outcome after,
        setting.play (process event ((PushIngest.new board [] mode).rules .github)) scene =
            (outcome, after) ∧
          setting.play ((PushIngest.new board [] mode).handle .github body tag) scene =
            (outcome.isDispatched, after) ∧
          PassedOn setting event scene outcome after

theorem fits_of_event? {tag : String} {mode : NotifyMode} {body : List UInt8} {event : Event}
    (hevent : event? tag mode body = some event) : ∃ rule ∈ defaultRules, rule.Fits event := by
  obtain ⟨occurrence, call, -, -, -, -, rfl⟩ := event?_eq_some_iff.1 hevent
  have hmem : occurrence ∈ Occurrence.all := by cases occurrence <;> decide
  exact ⟨_, List.mem_map_of_mem hmem, rfl, rfl, rfl⟩

theorem passedOn_of_judged {setting : Setting} {event : Event} {before after : Scene}
    {outcome : Outcome} (hfits : ∃ rule ∈ defaultRules, rule.Fits event)
    (hjudged : Judged setting event defaultRules before outcome after) :
    PassedOn setting event before outcome after := by
  have hpassed : outcome ≠ .suppressed → ∃ rule ∈ defaultRules, rule.Fits event ∧
      outcome = afterReply (setting.gateway (rule.actionFor event)) ∧
      after.calls = before.calls ++ [rule.actionFor event] := by
    intro hheard
    obtain ⟨index, rule, hdecides, houtcome, hcalls⟩ := hjudged.matched hheard hfits
    exact ⟨rule, List.mem_of_getElem? hdecides.at_index, hdecides.fits, houtcome, hcalls⟩
  refine ⟨hjudged, ?_, hpassed⟩
  rintro rfl
  obtain ⟨rule, -, -, houtcome, -⟩ := hpassed nofun
  exact afterReply_ne_noMatch _ houtcome.symm

/-- An event is made of every call that ends an occurrence, in failures mode unless it succeeded, and the
built-in rules pass on all of them. -/
theorem call_characterised (tag : String) (body : List UInt8) : Characterised tag body where
  isSome_iff := by
    simp only [Option.isSome_iff_exists, event?_eq_some_iff, mem_endings_iff]
    constructor
    · rintro ⟨event, occurrence, call, htag, hcall, haction, -, -⟩
      exact ⟨call, occurrence.terminalAction, ⟨occurrence, htag, rfl⟩, hcall, haction⟩
    · rintro ⟨call, terminal, ⟨occurrence, htag, rfl⟩, hcall, haction⟩
      exact ⟨call.toEvent occurrence, occurrence, call, htag, hcall, haction, nofun, rfl⟩
  reports call hcall := by
    refine ⟨Call.isSpelled_of_decoder (eq_ok_of_run hcall), fun event hevent => ?_⟩
    obtain ⟨occurrence, rfl, rfl⟩ := exists_of_event? hevent hcall
    exact call.reports_toEvent occurrence
  failures := event?_failures tag body
  passed board mode event hevent setting scene := by
    rw [play_handle hevent]
    have hjudged := play_process_judged setting scene event defaultRules
    exact ⟨_, _, rfl, rfl, passedOn_of_judged (fits_of_event? hevent) hjudged⟩

/-- A failed check is reported although a workflow that is named beside it succeeded, and under the number
that only the workflow gives. -/
example : (event? "check_run" .failures (Value.object
    [("action", .string "completed"), ("check_run", .object [("conclusion", .string "failure")]),
     ("workflow_run", .object [("conclusion", .string "success"),
       ("pull_requests", .array [.object [("number", .natural 9)]])])]).bytes).map
    (fun event => (event.subject, event.facts.get "conclusion")) = some ("9", "failure") := by
  decide +kernel

end GitHub

end EventRelay
