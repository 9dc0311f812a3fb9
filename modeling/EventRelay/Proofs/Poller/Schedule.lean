import EventRelay.Proofs.Poller.Trace
import EventRelay.Proofs.Timetable.Stretches

namespace EventRelay

open Script

/-- What answers the questions of a task. An answer takes some time and may change the world around the
task; nothing is said about which answers are given. -/
structure Responder (ω : Type) where
  answer : (question : Effect) → Nat → ω → question.Answer
  /-- In milliseconds. -/
  duration : Effect → Nat → ω → Nat
  after : Effect → Nat → ω → ω

namespace Responder

variable {ω α : Type} (responder : Responder ω)

/-- Answers a question that is asked at one time, and leaves another time and world. -/
def reply (question : Effect) : StateM (Nat × ω) question.Answer := fun (time, world) =>
  (responder.answer question time world,
    time + responder.duration question time world, responder.after question time world)

/-- Exchanges that took place one after the other, from a time and a world to the time and the world
that they left. -/
inductive Spans : Nat → ω → List (Sigma Effect.Answer) → Nat → ω → Prop
  | nothing (time : Nat) (world : ω) : Spans time world [] time world
  | exchange (question : Effect) {time finish : Nat} {world after : ω}
      {exchanges : List (Sigma Effect.Answer)}
      (hrest : Spans (time + responder.duration question time world)
        (responder.after question time world) exchanges finish after) :
      Spans time world (⟨question, responder.answer question time world⟩ :: exchanges) finish after

variable {responder}

theorem Spans.le {time finish : Nat} {world after : ω} {exchanges : List (Sigma Effect.Answer)}
    (hspans : responder.Spans time world exchanges finish after) : time ≤ finish := by
  induction hspans with
  | nothing => exact Nat.le_refl _
  | exchange question _ ih => exact Nat.le_trans (Nat.le_add_right _ _) ih

/-- Work that is done without interruption runs to its end, question by question. -/
theorem exists_spans_run (responder : Responder ω) (work : RelayM α) (time : Nat) (world : ω) :
    ∃ exchanges, work.Returns exchanges (work.run responder.reply (time, world)).1 ∧
      responder.Spans time world exchanges (work.run responder.reply (time, world)).2.1
        (work.run responder.reply (time, world)).2.2 := by
  induction work generalizing time world with
  | done value => exact ⟨[], .stay _, .nothing time world⟩
  | ask question next ih =>
    obtain ⟨exchanges, hreturns, hspans⟩ := ih (responder.answer question time world)
      (time + responder.duration question time world) (responder.after question time world)
    exact ⟨_, .answered _ hreturns, .exchange question hspans⟩

end Responder

namespace Poller

open Timetable

/-- A poller and the world around it, between two ticks. -/
structure Task (ω : Type) where
  poller : Poller
  world : ω

variable {ω : Type}

/-- One tick, with the time that it takes. -/
def Task.tick (responder : Responder ω) (start : Nat) (task : Task ω) : Nat × Task ω :=
  let ((_, poller), finish, world) := task.poller.tick.run responder.reply (start, task.world)
  (finish - start, ⟨poller, world⟩)

/-- A tick that asked all its questions, the save of a new position included, and had them answered
between its start and its end. -/
structure Complete (responder : Responder ω) (tick : Stretch (Task ω))
    (exchanges : List (Sigma Effect.Answer)) (outcome : TickOutcome) : Prop where
  returns : tick.before.poller.tick.Returns exchanges (outcome, tick.after.poller)
  turn : Turn tick.before.poller exchanges outcome tick.after.poller.state
  spans : responder.Spans tick.start tick.before.world exchanges tick.finish tick.after.world

theorem exists_complete {responder : Responder ω} {starts : List Nat} {task : Task ω}
    {tick : Stretch (Task ω)} (hmem : tick ∈ stretches (Task.tick responder) starts task) :
    ∃ exchanges outcome, Complete responder tick exchanges outcome := by
  obtain ⟨hfinish, hafter⟩ := eq_of_mem_stretches hmem
  obtain ⟨start, finish, ⟨poller, world⟩, after⟩ := tick
  obtain ⟨exchanges, hreturns, hspans⟩ := responder.exists_spans_run poller.tick start world
  obtain rfl : after = ⟨(poller.tick.run responder.reply (start, world)).1.2,
      (poller.tick.run responder.reply (start, world)).2.2⟩ := hafter
  obtain rfl : finish = (poller.tick.run responder.reply (start, world)).2.1 :=
    hfinish.trans (Nat.add_sub_of_le hspans.le)
  exact ⟨exchanges, _, hreturns, (tick_returns hreturns).1, hspans⟩

/-- How a poller ticks that was started at `origin` and is told to stop at `shutdown`. -/
structure Scheduled (table : Timetable) (responder : Responder ω) (origin shutdown : Nat)
    (task : Task ω) (ticks : List (Stretch (Task ω))) (run : TaskRun (Task ω)) : Prop where
  starts_eq : run.starts = ticks.map Stretch.start
  /-- No tick begins before the one before it has ended, and no two begin in one interval. -/
  apart : ticks.IsChain fun earlier later => earlier.finish ≤ later.start ∧
    table.slot origin earlier.start < table.slot origin later.start
  slot_pos : ∀ tick ∈ ticks, 1 ≤ table.slot origin tick.start
  /-- The first tick is one interval after the start. After each tick the next begins as soon as that
  has ended and the next time of the timetable has come. -/
  first : ∀ tick ∈ ticks.head?, tick.start = origin + table.interval
  next : ticks.IsChain fun earlier later =>
    later.start = max earlier.finish (table.nextSlot origin earlier.start)
  punctual : (∀ tick ∈ ticks, tick.finish < tick.start + table.interval) → ∀ time,
    time ∈ run.starts ↔ time < shutdown ∧ ∃ number ≥ 1, time = origin + number * table.interval
  /-- No tick begins after the order to stop, and nothing but that order ends the ticks. -/
  before : ∀ tick ∈ ticks, tick.start < shutdown
  goes_on : shutdown ≤ (ticks.getLast?.map fun last =>
    max last.finish (table.nextSlot origin last.start)).getD (origin + table.interval)
  /-- A tick that has begun is carried through, also one that is in flight when the order comes. -/
  complete : ∀ tick ∈ ticks, ∃ exchanges outcome, Complete responder tick exchanges outcome
  /-- Each tick goes on with what the one before it left. -/
  linked : ticks.IsChain fun earlier later => later.before = earlier.after
  before_eq : ∀ tick ∈ ticks.head?, tick.before = task
  state_eq : run.state = (ticks.getLast?.map Stretch.after).getD task
  stopped_eq : run.stopped =
    max shutdown (max origin ((ticks.getLast?.map Stretch.finish).getD origin))

/-- A poller ticks once in an interval at most, never while a tick is running, and ends with the tick
that is in flight when it is told to stop. Nothing is assumed about how long ticks take. -/
theorem run_scheduled {table : Timetable} (hinterval : 1000 ≤ table.interval)
    (responder : Responder ω) (origin shutdown : Nat) (task : Task ω) :
    Scheduled table responder origin shutdown task
      (stretches (Task.tick responder)
        (table.run (Task.tick responder) origin shutdown task).starts task)
      (table.run (Task.tick responder) origin shutdown task) := by
  have htolerance : tolerance < table.interval := Nat.lt_of_lt_of_le (by decide) hinterval
  have hdue : origin + table.interval = origin + 1 * table.interval := by rw [Nat.one_mul]
  have hlater : origin ≤ origin + table.interval := Nat.le_add_right _ _
  have hkept := runFrom_kept htolerance (Task.tick responder) hdue shutdown origin task
  refine ⟨(map_start_stretches _ _ _).symm, hkept.apart, ?_, ?_, hkept.next,
    mem_starts_runFrom_iff _ hdue hlater, ?_, ?_, fun _ => exists_complete,
    isChain_stretches _ _, fun _ => before_of_mem_head?, hkept.state_eq,
    hkept.stopped_eq_max hlater⟩
  · intro tick hmem
    have hslot := table.slot_mono origin (hkept.due_le _ (start_mem_of_mem_stretches hmem))
    rwa [hdue, ← Nat.add_zero (origin + _), table.slot_of_grid origin 1 table.interval_pos] at hslot
  · intro tick hmem
    rw [hkept.first tick.start (start_mem_of_mem_head? hmem), Nat.max_eq_right hlater]
  · intro tick hmem
    exact hkept.before _ (start_mem_of_mem_stretches hmem)
  · have hgoes := hkept.goes_on
    rwa [Nat.max_eq_right hlater] at hgoes

/-- The first fetch takes 25 seconds, and the second is running when the order to stop comes. -/
def slowStart : Responder Nat where
  answer
    | .now, _, _ | .sweep _, _, _ => (0 : Nat)
    | .allow _ _, _, _ => true
    | .deliver _, _, _ | .saveCursor _ _, _, _ => .ok ()
    | .loadCursor _, _, _ => .ok none
    | .highWater _, _, _ => .ok 1
    | .historySince _ position, _, _ => .ok ⟨[], position + 10⟩
  duration
    | .historySince _ _, _, 0 => 25000
    | .historySince _ _, _, _ => 9000
    | _, _, _ => 0
  after
    | .historySince _ _, _, fetches => fetches + 1
    | _, _, fetches => fetches

theorem run_scheduled_of_slow_start :
    1000 ≤ 10000 ∧
      let task : Task Nat := ⟨⟨"me@example.com", [], .tracking 10⟩, 0⟩
      let run := Timetable.run ⟨10000, by decide⟩ (Task.tick slowStart) 0 36000 task
      Scheduled ⟨10000, by decide⟩ slowStart 0 36000 task
        (stretches (Task.tick slowStart) run.starts task) run :=
  ⟨by decide, run_scheduled (by decide) slowStart 0 36000 _⟩

end Poller

end EventRelay
