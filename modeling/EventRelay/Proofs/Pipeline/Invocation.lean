import EventRelay.Proofs.Deduplicator.Entries
import EventRelay.Proofs.Pipeline.Trace

namespace EventRelay

open Script

/-- The deduplicator that all of the relay shares, and the time of the last operation on it. -/
structure Shared where
  dedup : Deduplicator
  reading : Nat

/-- A question to the deduplicator with its answer. -/
structure Check where
  key : String
  time : Nat
  allowed : Bool

/-- A run of the pipeline for an event: what it still has to do, the checks it made, the calls it made
to the gateway, and the replies to them. -/
structure Invocation where
  event : Event
  rules : List Rule
  rest : RelayM Outcome
  checks : List Check
  calls : List Action
  replies : List (Except GatewayError Unit)

namespace Invocation

def begin (event : Event) (rules : List Rule) : Invocation :=
  ⟨event, rules, Pipeline.process event rules, [], [], []⟩

/-- The steps of an invocation. The clock may show anything, but no operation on the deduplicator is
at an earlier time than the one before it. A call and its reply are two steps. -/
inductive Step : Shared → Invocation → Shared → Invocation → Prop
  | clock {shared : Shared} {event : Event} {rules : List Rule} {next : Nat → RelayM Outcome}
      {checks : List Check} {calls : List Action} {replies : List (Except GatewayError Unit)}
      (time : Nat) :
      Step shared ⟨event, rules, .ask .now next, checks, calls, replies⟩
        shared ⟨event, rules, next time, checks, calls, replies⟩
  | check {dedup : Deduplicator} {reading : Nat} {event : Event} {rules : List Rule} {key : String}
      {time : Nat} {next : Bool → RelayM Outcome} {checks : List Check} {calls : List Action}
      {replies : List (Except GatewayError Unit)} (hreading : reading ≤ time) :
      Step ⟨dedup, reading⟩ ⟨event, rules, .ask (.allow key time) next, checks, calls, replies⟩
        ⟨(dedup.allow key time).2, time⟩
        ⟨event, rules, next (dedup.allow key time).1,
          checks ++ [⟨key, time, (dedup.allow key time).1⟩], calls, replies⟩
  | call {shared : Shared} {event : Event} {rules : List Rule} {action : Action}
      {next : Except GatewayError Unit → RelayM Outcome} {checks : List Check}
      {calls : List Action} {replies : List (Except GatewayError Unit)}
      (hidle : calls.length = replies.length) :
      Step shared ⟨event, rules, .ask (.deliver action) next, checks, calls, replies⟩
        shared ⟨event, rules, .ask (.deliver action) next, checks, calls ++ [action], replies⟩
  | reply {shared : Shared} {event : Event} {rules : List Rule} {action : Action}
      {next : Except GatewayError Unit → RelayM Outcome} {checks : List Check}
      {calls : List Action} {replies : List (Except GatewayError Unit)}
      (reply : Except GatewayError Unit) (hwaiting : calls.length = replies.length + 1) :
      Step shared ⟨event, rules, .ask (.deliver action) next, checks, calls, replies⟩
        shared ⟨event, rules, next reply, checks, calls, replies ++ [reply]⟩

/-- How far an invocation can have come. -/
inductive Stage (event : Event) (rules : List Rule) : Invocation → Prop
  | begun : Stage event rules ⟨event, rules, .ask .now fun time =>
      .ask (.allow event.dedupKey time) (Pipeline.afterCheck event rules), [], [], []⟩
  | timed (time : Nat) : Stage event rules
      ⟨event, rules, .ask (.allow event.dedupKey time) (Pipeline.afterCheck event rules), [], [], []⟩
  | suppressed (time : Nat) : Stage event rules
      ⟨event, rules, .done .suppressed, [⟨event.dedupKey, time, false⟩], [], []⟩
  | unmatched (time : Nat) : Stage event rules
      ⟨event, rules, .done .noMatch, [⟨event.dedupKey, time, true⟩], [], []⟩
  | matched (time : Nat) (action : Action) : Stage event rules
      ⟨event, rules, .ask (.deliver action) fun reply => .done (Pipeline.afterReply reply),
        [⟨event.dedupKey, time, true⟩], [], []⟩
  | called (time : Nat) (action : Action) : Stage event rules
      ⟨event, rules, .ask (.deliver action) fun reply => .done (Pipeline.afterReply reply),
        [⟨event.dedupKey, time, true⟩], [action], []⟩
  | settled (time : Nat) (action : Action) (reply : Except GatewayError Unit) : Stage event rules
      ⟨event, rules, .done (Pipeline.afterReply reply), [⟨event.dedupKey, time, true⟩], [action],
        [reply]⟩

theorem Stage.event_eq {event : Event} {rules : List Rule} {invocation : Invocation}
    (hstage : Stage event rules invocation) :
    invocation.event = event ∧ invocation.rules = rules := by
  cases hstage <;> exact ⟨rfl, rfl⟩

theorem stage_begin (event : Event) (rules : List Rule) : Stage event rules (begin event rules) :=
  .begun

theorem stage_afterCheck (event : Event) (rules : List Rule) (time : Nat) (allowed : Bool) :
    Stage event rules ⟨event, rules, Pipeline.afterCheck event rules allowed,
      [⟨event.dedupKey, time, allowed⟩], [], []⟩ := by
  cases allowed with
  | false => exact .suppressed time
  | true =>
    cases hrule : Rule.findFirst? rules event.kind event.facts with
    | none =>
      have hrest : Pipeline.afterCheck event rules true = .done .noMatch := by
        simp [Pipeline.afterCheck, hrule]
      rw [hrest]
      exact .unmatched time
    | some rule =>
      rw [Pipeline.afterCheck_of_rule hrule]
      exact .matched time (rule.actionFor event)

/-- What a step does to the stage, to the deduplicator and to the checks. -/
theorem Stage.step {event : Event} {rules : List Rule} {shared shared' : Shared}
    {invocation invocation' : Invocation} (hstage : Stage event rules invocation)
    (hstep : Step shared invocation shared' invocation') :
    Stage event rules invocation' ∧
      ((shared' = shared ∧ invocation'.checks = invocation.checks) ∨
        ∃ time, shared.reading ≤ time ∧
          shared' = ⟨(shared.dedup.allow event.dedupKey time).2, time⟩ ∧
          invocation'.checks =
            [⟨event.dedupKey, time, (shared.dedup.allow event.dedupKey time).1⟩]) := by
  cases hstage with
  | begun =>
    cases hstep with
    | clock time => exact ⟨.timed time, .inl ⟨rfl, rfl⟩⟩
  | timed time =>
    cases hstep with
    | check hreading =>
      exact ⟨stage_afterCheck event rules time _, .inr ⟨time, hreading, rfl, rfl⟩⟩
  | suppressed time => cases hstep
  | unmatched time => cases hstep
  | matched time action =>
    cases hstep with
    | call => exact ⟨.called time action, .inl ⟨rfl, rfl⟩⟩
    | reply reply hwaiting => cases hwaiting
  | called time action =>
    cases hstep with
    | call hidle => cases hidle
    | reply reply => exact ⟨.settled time action reply, .inl ⟨rfl, rfl⟩⟩
  | settled time action reply => cases hstep

/-- An invocation makes one call at most, and only after its own check let it through. It returns that
the event was dispatched exactly when the call was made and succeeded. -/
structure Lawful (invocation : Invocation) : Prop where
  calls_le : invocation.calls.length ≤ 1
  allowed : invocation.calls ≠ [] →
    ∃ time, invocation.checks = [⟨invocation.event.dedupKey, time, true⟩]
  dispatched_iff : invocation.rest = .done .dispatched ↔
    ∃ action, invocation.calls = [action] ∧ invocation.replies = [.ok ()]

theorem Stage.lawful {event : Event} {rules : List Rule} {invocation : Invocation}
    (hstage : Stage event rules invocation) : invocation.Lawful := by
  cases hstage with
  | begun | timed | suppressed | unmatched => exact ⟨by simp, by simp, by simp⟩
  | matched time action => exact ⟨by simp, by simp, by simp⟩
  | called time action => exact ⟨by simp, fun _ => ⟨time, rfl⟩, by simp⟩
  | settled time action reply =>
    exact ⟨by simp, fun _ => ⟨time, rfl⟩, by simp [Pipeline.afterReply_eq_dispatched_iff]⟩

end Invocation

end EventRelay
