import EventRelay.Http.Server
import EventRelay.Mailbox.Poller
import EventRelay.Proofs.Pipeline.Trace

namespace EventRelay

open Script

/-- Questions about one account, which neither the deduplicator nor the gateway answers. -/
def Effect.IsAccount : Effect → Prop
  | loadCursor _ | saveCursor _ _ | highWater _ | historySince _ _ => True
  | _ => False

/-- Work that reaches the deduplicator and the gateway only through whole runs of the pipeline. -/
inductive Composed {α : Type} : RelayM α → Prop
  | done (value : α) : Composed (.done value)
  | ask {question : Effect} {next : question.Answer → RelayM α} (hquestion : question.IsAccount)
      (hnext : ∀ answer, Composed (next answer)) : Composed (.ask question next)
  | process (event : Event) (rules : List Rule) {next : Outcome → RelayM α}
      (hnext : ∀ outcome, Composed (next outcome)) :
      Composed ((Pipeline.process event rules).bind next)

theorem Composed.bind {α β : Type} {work : RelayM α} {next : α → RelayM β}
    (hwork : Composed work) (hnext : ∀ value, Composed (next value)) :
    Composed (work.bind next) := by
  induction hwork with
  | done value => exact hnext value
  | ask hquestion _ ih => exact .ask hquestion ih
  | process event rules _ ih =>
    rw [bind_assoc]
    exact .process event rules ih

theorem Composed.of_ask {α : Type} {question : Effect} {next : question.Answer → RelayM α}
    (hwork : Composed (.ask question next)) (hquestion : question.IsAccount)
    (answer : question.Answer) : Composed (next answer) := by
  generalize hscript : Script.ask question next = work at hwork
  cases hwork with
  | done value => cases hscript
  | ask _ hnext =>
    cases hscript
    exact hnext answer
  | process event rules hnext =>
    -- The first question of the pipeline is about the clock.
    rw [Pipeline.process_eq, ask_bind] at hscript
    cases hscript
    exact hquestion.elim

namespace PushIngest

theorem handle_composed (ingest : PushIngest) (source : PushSource) (body : List UInt8)
    (tag : String) : Composed (ingest.handle source body tag) := by
  rw [handle]
  cases ingest.event? source body tag with
  | none => exact .done false
  | some event => exact .process event _ fun outcome => .done outcome.isDispatched

end PushIngest

namespace Http.Server

theorem receive_composed (server : Server) (source : PushSource) (request : Request) :
    Composed (server.receive source request) := by
  rw [receive]
  split
  · exact .done _
  · split
    · exact .done _
    · exact (server.ingest.handle_composed source _ _).bind fun _ => .done _

theorem answer_composed (server : Server) (route : Route) (request : Request) :
    Composed (server.answer route request) := by
  cases route with
  | health => exact .done _
  | status => exact .done _
  | webhook source =>
    rw [answer]
    split
    · exact .done _
    · exact server.receive_composed source request

theorem visit_composed (server : Server) (route : Route) (request : Request) :
    Composed (server.visit route request) := by
  have hlabel : ∀ response : Response, Composed (α := Response)
      (if route.allows request.method then .done response
      else .done { response with allow? := some route.allowText }) := by
    intro response
    split <;> exact .done _
  rw [visit]
  split
  · exact hlabel unauthorized
  · split
    · exact (server.answer_composed route request).bind fun response => .done response
    · exact .done _

theorem respond_composed (server : Server) (request : Request) :
    Composed (server.respond request) := by
  have hstrip : ∀ response : Response, Composed (α := Response)
      (if request.method = "HEAD" then .done response.withoutBody else .done response) := by
    intro response
    split <;> exact .done _
  rw [respond]
  split
  · exact (server.visit_composed _ request).bind hstrip
  · exact hstrip (.empty 404)

end Http.Server

namespace Poller

theorem saveHighWater_composed (account : String) : Composed (saveHighWater account) := by
  refine .ask trivial fun fetched => ?_
  cases fetched with
  | error error => exact .done none
  | ok position =>
    refine .ask trivial fun saved => ?_
    cases saved with
    | error error => exact .done none
    | ok success => exact .done (some position)

theorem establish_composed (poller : Poller) : Composed poller.establish := by
  refine (saveHighWater_composed poller.account).bind ?_
  rintro (- | position) <;> exact .done _

theorem reset_composed (poller : Poller) : Composed poller.reset := by
  refine (saveHighWater_composed poller.account).bind ?_
  rintro (- | position) <;> exact .done _

theorem processAll_composed (poller : Poller) (messages : List MailMessage) :
    Composed (poller.processAll messages) := by
  induction messages with
  | nil => exact .done ()
  | cons message rest ih => exact .process _ _ fun _ => ih

theorem pollFrom_composed (poller : Poller) (position : UInt64) :
    Composed (poller.pollFrom position) := by
  refine .ask trivial fun fetched => ?_
  cases fetched with
  | error error =>
    cases hexpired : error.isExpired with
    | false => simpa [hexpired] using Composed.done _
    | true => simpa [hexpired] using reset_composed poller
  | ok page =>
    refine (processAll_composed poller page.entries).bind fun _ => .ask trivial fun saved => ?_
    cases saved with
    | error error => exact .done _
    | ok success => exact .done _

theorem tick_composed (poller : Poller) : Composed poller.tick := by
  rw [tick]
  cases poller.state with
  | uninitialized => exact establish_composed poller
  | resetting => exact reset_composed poller
  | tracking position => exact pollFrom_composed poller position

theorem start_composed (poller : Poller) : Composed poller.start := by
  have hestablish : Composed (poller.establish.bind fun result => .done result.2) :=
    (establish_composed poller).bind fun result => .done result.2
  refine .ask trivial fun loaded => ?_
  cases loaded with
  | error error => exact hestablish
  | ok position? =>
    cases position? with
    | none => exact hestablish
    | some position =>
      by_cases hpositive : 0 < position
      · simpa [hpositive] using Composed.done _
      · simpa [hpositive] using hestablish

end Poller

end EventRelay
