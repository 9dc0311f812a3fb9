namespace EventRelay

/-- When a task is repeated: at the multiples of an interval after its start. -/
structure Timetable where
  /-- In milliseconds. -/
  interval : Nat
  interval_pos : 0 < interval

/-- What a task did: when its repetitions began, when it ended, and what it left. -/
structure TaskRun (σ : Type) where
  starts : List Nat
  stopped : Nat
  state : σ

namespace Timetable

def ofMilliseconds? (interval : Nat) : Option Timetable :=
  if hpos : 0 < interval then some ⟨interval, hpos⟩ else none

/-- By how many milliseconds a repetition may be late and count as on time. -/
def tolerance : Nat := 5

/-- When the repetition after one is due, which was due itself at `due` and begins at `start`. After a
    late one the times that have passed are dropped. -/
def nextDue (table : Timetable) (due start : Nat) : Nat :=
  if due + tolerance < start then start + table.interval - (start - due) % table.interval
  else due + table.interval

theorem lt_nextDue (table : Timetable) (due start : Nat) : due < table.nextDue due start := by
  have hpos := table.interval_pos
  have hlt := Nat.mod_lt (start - due) hpos
  unfold nextDue
  split <;> omega

/-- Repeats a task that is free from `free` on and whose next repetition is due at `due`, until it is
    told to stop. `work` does one repetition, from the time at which it begins, and says how long that
    takes. A repetition that has begun is finished even when the task is told to stop meanwhile. -/
def runFrom {σ : Type} (table : Timetable) (work : Nat → σ → Nat × σ) (shutdown due free : Nat)
    (state : σ) : TaskRun σ :=
  let start := max free due
  if shutdown ≤ start then ⟨[], max free shutdown, state⟩
  else
    let (duration, state) := work start state
    let rest := table.runFrom work shutdown (table.nextDue due start) (start + duration) state
    { rest with starts := start :: rest.starts }
termination_by shutdown - due
decreasing_by
  have hnext := table.lt_nextDue due (max free due)
  omega

/-- Repeats a task that starts at one time until another. Nothing is done at the start itself. -/
def run {σ : Type} (table : Timetable) (work : Nat → σ → Nat × σ) (start shutdown : Nat)
    (state : σ) : TaskRun σ :=
  table.runFrom work shutdown (start + table.interval) start state

end Timetable

end EventRelay
