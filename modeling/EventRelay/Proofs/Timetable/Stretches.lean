import EventRelay.Timetable
import Mathlib.Data.List.Chain

namespace EventRelay

/-- One repetition of a task: when it began and when it ended, what it found and what it left. -/
structure Stretch (σ : Type) where
  start : Nat
  finish : Nat
  before : σ
  after : σ

/-- A run with one more repetition before all others. -/
def TaskRun.preceded {σ : Type} (run : TaskRun σ) (start : Nat) : TaskRun σ :=
  { run with starts := start :: run.starts }

namespace Timetable

variable {σ : Type}

/-- The repetitions that began at given times, each with what the one before it left. -/
def stretches (work : Nat → σ → Nat × σ) : List Nat → σ → List (Stretch σ)
  | [], _ => []
  | start :: starts, state =>
    ⟨start, start + (work start state).1, state, (work start state).2⟩ ::
      stretches work starts (work start state).2

/-- How many whole intervals have passed at a time since the origin of a timetable. -/
def slot (table : Timetable) (origin time : Nat) : Nat :=
  (time - origin) / table.interval

/-- The first time of a timetable after a time, whether or not that time is itself one of them. -/
def nextSlot (table : Timetable) (origin time : Nat) : Nat :=
  origin + (table.slot origin time + 1) * table.interval

variable {table : Timetable} {work : Nat → σ → Nat × σ} {origin shutdown due free : Nat} {state : σ}

theorem map_start_stretches (work : Nat → σ → Nat × σ) (starts : List Nat) (state : σ) :
    (stretches work starts state).map Stretch.start = starts := by
  induction starts generalizing state with
  | nil => rfl
  | cons start starts ih => rw [stretches, List.map_cons, ih]

theorem start_mem_of_mem_stretches {starts : List Nat} {tick : Stretch σ}
    (hmem : tick ∈ stretches work starts state) : tick.start ∈ starts := by
  rw [← map_start_stretches work starts state]
  exact List.mem_map_of_mem hmem

theorem start_mem_of_mem_head? {starts : List Nat} {tick : Stretch σ}
    (hmem : tick ∈ (stretches work starts state).head?) : tick.start ∈ starts.head? := by
  rw [← map_start_stretches work starts state, List.head?_map]
  exact Option.mem_map_of_mem _ hmem

theorem eq_of_mem_stretches {starts : List Nat} {tick : Stretch σ}
    (hmem : tick ∈ stretches work starts state) :
    tick.finish = tick.start + (work tick.start tick.before).1 ∧
      tick.after = (work tick.start tick.before).2 := by
  induction starts generalizing state with
  | nil => cases hmem
  | cons start starts ih =>
    obtain rfl | hmem := List.mem_cons.1 hmem
    · exact ⟨rfl, rfl⟩
    · exact ih hmem

theorem before_of_mem_head? {starts : List Nat} {tick : Stretch σ}
    (hmem : tick ∈ (stretches work starts state).head?) : tick.before = state := by
  cases starts with
  | nil => cases hmem
  | cons start starts =>
    cases hmem
    rfl

/-- Each repetition takes up what the one before it left. -/
theorem isChain_stretches (starts : List Nat) (state : σ) :
    (stretches work starts state).IsChain fun earlier later => later.before = earlier.after := by
  induction starts generalizing state with
  | nil => exact .nil
  | cons start starts ih => exact List.isChain_cons.2 ⟨fun _ => before_of_mem_head?, ih _⟩

theorem slot_of_grid (table : Timetable) (origin index : Nat) {late : Nat}
    (hlate : late < table.interval) :
    table.slot origin (origin + index * table.interval + late) = index := by
  rw [slot, Nat.add_assoc, Nat.add_sub_cancel_left, Nat.add_comm,
    Nat.add_mul_div_right _ _ table.interval_pos, Nat.div_eq_of_lt hlate, Nat.zero_add]

theorem slot_mono (table : Timetable) (origin : Nat) {earlier later : Nat} (hle : earlier ≤ later) :
    table.slot origin earlier ≤ table.slot origin later :=
  Nat.div_le_div_right (Nat.sub_le_sub_right hle origin)

theorem slot_nextSlot (origin time : Nat) :
    table.slot origin (table.nextSlot origin time) = table.slot origin time + 1 := by
  have hgrid := table.slot_of_grid origin (table.slot origin time + 1) table.interval_pos
  rwa [Nat.add_zero] at hgrid

theorem slot_lt_of_nextSlot_le {earlier later : Nat}
    (hle : table.nextSlot origin earlier ≤ later) :
    table.slot origin earlier < table.slot origin later := by
  have hslot := table.slot_mono origin hle
  rwa [slot_nextSlot] at hslot

/-- Late or not, the repetition after one is due at the first time of the timetable after the one at
which that began, as long as the tolerance does not reach the next time. -/
theorem nextDue_eq_nextSlot (htolerance : tolerance < table.interval) {index start : Nat}
    (hdue : due = origin + index * table.interval) (hstart : due ≤ start) :
    table.nextDue due start = table.nextSlot origin start := by
  subst hdue
  obtain ⟨late, rfl⟩ := Nat.exists_eq_add_of_le hstart
  have hsplit : late = late / table.interval * table.interval + late % table.interval := by
    rw [Nat.mul_comm, Nat.div_add_mod]
  have hrest := Nat.mod_lt late table.interval_pos
  have hslot : table.slot origin (origin + index * table.interval + late) =
      index + late / table.interval := by
    rw [← table.slot_of_grid origin (index + late / table.interval) hrest, Nat.add_mul]
    congr 1
    omega
  rw [nextSlot, hslot, nextDue, Nat.add_sub_cancel_left, Nat.add_mul, Nat.add_mul, Nat.one_mul]
  split
  · omega
  · have hnone : late / table.interval = 0 := Nat.div_eq_of_lt (by omega)
    rw [hnone]
    omega

theorem runFrom_of_le (work : Nat → σ → Nat × σ) (state : σ) (hshutdown : shutdown ≤ max free due) :
    table.runFrom work shutdown due free state = ⟨[], max free shutdown, state⟩ := by
  rw [runFrom, if_pos hshutdown]

theorem runFrom_of_lt (work : Nat → σ → Nat × σ) (state : σ) (hshutdown : max free due < shutdown) :
    table.runFrom work shutdown due free state =
      (table.runFrom work shutdown (table.nextDue due (max free due))
        (max free due + (work (max free due) state).1) (work (max free due) state).2).preceded
          (max free due) := by
  rw [runFrom, if_neg (Nat.not_le.2 hshutdown), TaskRun.preceded]

/-- Induction along a run, one repetition after the other. -/
theorem runInduction (table : Timetable) (work : Nat → σ → Nat × σ) (shutdown : Nat)
    {motive : Nat → Nat → σ → Prop}
    (stop : ∀ due free state, shutdown ≤ max free due → motive due free state)
    (again : ∀ due free state, max free due < shutdown →
      motive (table.nextDue due (max free due)) (max free due + (work (max free due) state).1)
        (work (max free due) state).2 →
      motive due free state) (due free : Nat) (state : σ) : motive due free state :=
  runFrom.induct table work shutdown motive stop
    (fun due free state hstart _ _ hwork ih =>
      again due free state (Nat.not_le.1 hstart) (by rwa [hwork]))
    due free state

/-- What a task does that is free from `free` on and due at `due`, at a time of the timetable. -/
structure Kept (table : Timetable) (work : Nat → σ → Nat × σ) (origin shutdown due free : Nat)
    (state : σ) (run : TaskRun σ) : Prop where
  first : ∀ start ∈ run.starts.head?, start = max free due
  /-- A repetition begins when the one before has ended and the next time has come. -/
  next : (stretches work run.starts state).IsChain fun earlier later =>
    later.start = max earlier.finish (table.nextSlot origin earlier.start)
  due_le : ∀ start ∈ run.starts, due ≤ start
  before : ∀ start ∈ run.starts, start < shutdown
  /-- Only the order to stop ends the repetitions. -/
  goes_on : shutdown ≤ (((stretches work run.starts state).getLast?.map fun last =>
    max last.finish (table.nextSlot origin last.start)).getD (max free due))
  stopped_eq : run.stopped =
    max shutdown (((stretches work run.starts state).getLast?.map Stretch.finish).getD free)
  state_eq : run.state =
    ((stretches work run.starts state).getLast?.map Stretch.after).getD state

theorem getD_map_getLast?_cons {α β : Type} (f : α → β) (first : α) (rest : List α) (default : β) :
    ((first :: rest).getLast?.map f).getD default = (rest.getLast?.map f).getD (f first) := by
  rw [List.getLast?_cons, Option.map_some, Option.getD_some, Option.getD_map]

/-- A repetition, and a run that is kept after it. -/
theorem Kept.preceded {run : TaskRun σ} (hstart : max free due < shutdown)
    (hdue : due ≤ table.nextSlot origin (max free due))
    (hrest : Kept table work origin shutdown (table.nextSlot origin (max free due))
      (max free due + (work (max free due) state).1) (work (max free due) state).2 run) :
    Kept table work origin shutdown due free state (run.preceded (max free due)) where
  first := by simp [TaskRun.preceded]
  next := by
    refine List.isChain_cons.2 ⟨?_, hrest.next⟩
    intro later hlater
    exact hrest.first later.start (start_mem_of_mem_head? hlater)
  due_le := by
    intro start hmem
    obtain rfl | hmem := List.mem_cons.1 hmem
    · exact Nat.le_max_right _ _
    · exact Nat.le_trans hdue (hrest.due_le start hmem)
  before := by
    intro start hmem
    obtain rfl | hmem := List.mem_cons.1 hmem
    · exact hstart
    · exact hrest.before start hmem
  goes_on := by
    rw [TaskRun.preceded, stretches, getD_map_getLast?_cons]
    exact hrest.goes_on
  stopped_eq := by
    rw [TaskRun.preceded, stretches, getD_map_getLast?_cons]
    exact hrest.stopped_eq
  state_eq := by
    rw [TaskRun.preceded, stretches, getD_map_getLast?_cons]
    exact hrest.state_eq

theorem runFrom_kept (htolerance : tolerance < table.interval) (work : Nat → σ → Nat × σ)
    {index : Nat} (hdue : due = origin + index * table.interval) (shutdown free : Nat) (state : σ) :
    Kept table work origin shutdown due free state
      (table.runFrom work shutdown due free state) := by
  induction due, free, state using runInduction table work shutdown generalizing index with
  | stop due free state hstop =>
    rw [runFrom_of_le work state hstop]
    exact ⟨nofun, .nil, nofun, nofun, hstop, Nat.max_comm _ _, rfl⟩
  | again due free state hstart ih =>
    have hnext : table.nextDue due (max free due) = table.nextSlot origin (max free due) :=
      nextDue_eq_nextSlot htolerance hdue (Nat.le_max_right _ _)
    have hlater : due ≤ table.nextSlot origin (max free due) := by
      rw [← hnext]
      exact Nat.le_of_lt (table.lt_nextDue due (max free due))
    rw [runFrom_of_lt work state hstart, hnext]
    rw [hnext] at ih
    exact Kept.preceded hstart hlater (ih rfl)

/-- The times that pass during a long repetition are dropped, and the next one begins when it has
ended. -/
example : (Timetable.run ⟨10000, by decide⟩
    (fun _ durations => (durations.headD 0, durations.tail)) 0 65000 [25000]).starts =
      [10000, 35000, 40000, 50000, 60000] := by
  decide +kernel

theorem Kept.apart {run : TaskRun σ}
    (hkept : Kept table work origin shutdown due free state run) :
    (stretches work run.starts state).IsChain fun earlier later =>
      earlier.finish ≤ later.start ∧ table.slot origin earlier.start < table.slot origin later.start := by
  refine hkept.next.imp fun earlier later hnext => ?_
  rw [hnext]
  exact ⟨Nat.le_max_left _ _, slot_lt_of_nextSlot_le (Nat.le_max_right _ _)⟩

/-- A task that is free when it starts ends no sooner. -/
theorem Kept.stopped_eq_max {run : TaskRun σ}
    (hkept : Kept table work origin shutdown due free state run) (hfree : free ≤ due) :
    run.stopped = max shutdown
      (max free (((stretches work run.starts state).getLast?.map Stretch.finish).getD free)) := by
  rw [hkept.stopped_eq]
  cases hlast : (stretches work run.starts state).getLast? with
  | none => simp
  | some last =>
    have hmem := List.mem_of_getLast? hlast
    have hdue := hkept.due_le _ (start_mem_of_mem_stretches hmem)
    have hfinish := (eq_of_mem_stretches hmem).1
    have hle : free ≤ last.finish := by omega
    rw [Option.map_some, Option.getD_some, Nat.max_eq_right hle]

/-- If every repetition ends before the next is due, they begin at the times of the timetable. -/
theorem mem_starts_runFrom_iff (work : Nat → σ → Nat × σ) {index : Nat}
    (hdue : due = origin + index * table.interval) (hfree : free ≤ due)
    (hshort : ∀ tick ∈ stretches work (table.runFrom work shutdown due free state).starts state,
      tick.finish < tick.start + table.interval) (time : Nat) :
    time ∈ (table.runFrom work shutdown due free state).starts ↔
      time < shutdown ∧ ∃ number, index ≤ number ∧ time = origin + number * table.interval := by
  induction due, free, state using runInduction table work shutdown generalizing index with
  | stop due free state hstop =>
    rw [runFrom_of_le work state hstop]
    rw [Nat.max_eq_right hfree] at hstop
    constructor
    · nofun
    · rintro ⟨hbefore, number, hnumber, rfl⟩
      have hgrid := Nat.mul_le_mul_right table.interval hnumber
      omega
  | again due free state hstart ih =>
    have hnext : table.nextDue due due = origin + (index + 1) * table.interval := by
      rw [nextDue, if_neg (by omega), hdue, Nat.add_mul]
      omega
    rw [runFrom_of_lt work state hstart] at hshort ⊢
    simp only [Nat.max_eq_right hfree, TaskRun.preceded, stretches, List.forall_mem_cons]
      at hstart hshort ih ⊢
    obtain ⟨hfirst, hrest⟩ := hshort
    rw [List.mem_cons, ih hnext (by rw [hnext, Nat.add_mul]; omega) hrest]
    constructor
    · rintro (rfl | ⟨hbefore, number, hnumber, rfl⟩)
      · exact ⟨hstart, index, Nat.le_refl _, hdue⟩
      · exact ⟨hbefore, number, by omega, rfl⟩
    · rintro ⟨hbefore, number, hnumber, rfl⟩
      obtain rfl | hnumber := Nat.eq_or_lt_of_le hnumber
      · exact .inl hdue.symm
      · exact .inr ⟨hbefore, number, hnumber, rfl⟩

end Timetable

end EventRelay
