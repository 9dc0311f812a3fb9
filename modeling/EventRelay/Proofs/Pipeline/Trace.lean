import EventRelay.Pipeline
import EventRelay.Proofs.Script.Trace

namespace EventRelay

open Script

/-- Questions of the pipeline: those about the clock, the deduplicator and the gateway. -/
def Effect.IsPipeline : Effect → Prop
  | now | allow _ _ | deliver _ => True
  | _ => False

namespace Pipeline

variable {event : Event} {rules : List Rule}

/-- What is left to do once the deduplicator has answered. -/
def afterCheck (event : Event) (rules : List Rule) (allowed : Bool) : RelayM Outcome :=
  if allowed = true then
    match Rule.findFirst? rules event.kind event.facts with
    | some rule => dispatch (rule.actionFor event)
    | none => .done .noMatch
  else .done .suppressed

/-- What the reply of the gateway makes of an event. -/
def afterReply : Except GatewayError Unit → Outcome
  | .ok () => .dispatched
  | .error _ => .dispatchFailed

theorem process_eq (event : Event) (rules : List Rule) :
    process event rules = .ask .now fun time =>
      .ask (.allow event.dedupKey time) (afterCheck event rules) :=
  rfl

theorem dispatch_eq (action : Action) :
    dispatch action = .ask (.deliver action) fun reply => .done (afterReply reply) := by
  simp only [dispatch, RelayM.query, query, bind_eq_bind, ask_bind, done_bind]
  congr
  funext reply
  cases reply <;> rfl

theorem afterCheck_of_rule {event : Event} {rules : List Rule} {rule : Rule}
    (hrule : Rule.findFirst? rules event.kind event.facts = some rule) :
    afterCheck event rules true =
      .ask (.deliver (rule.actionFor event)) fun reply => .done (afterReply reply) := by
  rw [← dispatch_eq]
  simp [afterCheck, hrule]

theorem afterReply_eq_dispatched_iff {reply : Except GatewayError Unit} :
    afterReply reply = .dispatched ↔ reply = .ok () := by
  cases reply <;> simp [afterReply]

theorem dispatch_asksOnly (action : Action) : (dispatch action).AsksOnly Effect.IsPipeline := by
  rw [dispatch_eq]
  exact ⟨trivial, fun _ => trivial⟩

theorem process_asksOnly (event : Event) (rules : List Rule) :
    (process event rules).AsksOnly Effect.IsPipeline := by
  refine ⟨trivial, fun time => ⟨trivial, fun allowed => ?_⟩⟩
  cases allowed with
  | false => trivial
  | true =>
    cases hrule : Rule.findFirst? rules event.kind event.facts with
    | none => simp [AsksOnly]
    | some rule => simpa using dispatch_asksOnly (rule.actionFor event)

end Pipeline

end EventRelay
