import EventRelay.Shutdown
import Mathlib.Data.List.Basic

namespace EventRelay

namespace WaiterState

/-- How many steps a waiter has ahead of it before it returns, if the flag is raised and nobody who
waits has missed the notification. -/
def stepsLeft : WaiterState → Nat
  | starting => 2
  | subscribed _ => 1
  | waiting _ => 3
  | returned => 0

theorem stepsLeft_le (state : WaiterState) : state.stepsLeft ≤ 3 := by
  cases state <;> simp [stepsLeft]

theorem stepsLeft_eq_zero_iff {state : WaiterState} : state.stepsLeft = 0 ↔ state = .returned := by
  cases state <;> simp [stepsLeft]

@[simp] theorem stepsLeft_notify (state : WaiterState) : state.notify.stepsLeft = state.stepsLeft := by
  cases state <;> rfl

theorem notify_ne_waiting_false (state : WaiterState) : state.notify ≠ .waiting false := by
  cases state <;> simp [notify]

theorem notify_eq_returned_iff {state : WaiterState} : state.notify = .returned ↔ state = .returned := by
  cases state <;> simp [notify]

/-- Only those who have returned, or wait for a notification that has not come, can make no step. -/
theorem next?_eq_none_iff {flag : Bool} {state : WaiterState} :
    state.next? flag = none ↔ state = .returned ∨ state = .waiting false := by
  cases state with
  | waiting notified => cases notified <;> simp [next?]
  | _ => simp [next?]

/-- A waiter returns only when it sees the flag. -/
theorem flag_of_next?_eq_returned {flag : Bool} {state : WaiterState}
    (hnext : state.next? flag = some .returned) : flag = true := by
  cases state with
  | waiting notified => cases notified <;> simp [next?] at hnext
  | _ => cases flag <;> simp_all [next?]

/-- A waiter begins to wait for a notification only if it does not see the flag. -/
theorem flag_of_next?_eq_waiting {flag : Bool} {state : WaiterState}
    (hnext : state.next? flag = some (.waiting false)) : flag = false := by
  cases state with
  | waiting notified => cases notified <;> simp [next?] at hnext
  | _ => cases flag <;> simp_all [next?]

theorem stepsLeft_next? {state after : WaiterState} (hnext : state.next? true = some after) :
    after.stepsLeft + 1 = state.stepsLeft := by
  cases state with
  | waiting notified => cases notified <;> simp_all [next?, stepsLeft, eq_comm]
  | _ => simp_all [next?, stepsLeft, eq_comm]

end WaiterState

namespace Shutdown

variable {signal next after : Shutdown}

theorem step?_waiter_iff {index : Nat} :
    signal.step? (.waiter index) = some next ↔ ∃ state later, signal.waiters[index]? = some state ∧
      state.next? signal.flag = some later ∧
      next = { signal with waiters := signal.waiters.set index later } := by
  simp only [step?, stepWaiter?, Option.bind_eq_bind, Option.bind_eq_some_iff, Option.pure_def,
    Option.some.injEq, exists_and_left, eq_comm (b := next)]

theorem step?_trigger_iff {index : Nat} :
    signal.step? (.trigger index) = some next ↔
      (signal.triggers[index]? = some .starting ∧
        next = { signal with flag := true, triggers := signal.triggers.set index .raised }) ∨
      (signal.triggers[index]? = some .raised ∧
        next = { signal with
          waiters := signal.waiters.map WaiterState.notify
          triggers := signal.triggers.set index .completed }) := by
  rw [step?, stepTrigger?]
  cases htrigger : signal.triggers[index]? with
  | none => simp
  | some trigger => cases trigger <;> simp [eq_comm]

/-- A step of somebody, or a waiter that has not returned gives up and waits anew. A poller gives up
whenever its next tick is due. -/
inductive Step (signal : Shutdown) : Shutdown → Prop
  | made {next : Shutdown} (party : ShutdownStep) (hstep : signal.step? party = some next) :
      Step signal next
  | renewed {index : Nat} {state : WaiterState} (hstate : signal.waiters[index]? = some state)
      (hwaits : state ≠ .returned) :
      Step signal { signal with waiters := signal.waiters.set index .starting }

/-- What may come of so many waiters and triggers, whoever makes a step when. -/
inductive Reachable (waiters triggers : Nat) : Shutdown → Prop
  | initially : Reachable waiters triggers (new waiters triggers)
  | step {signal next : Shutdown} (hreach : Reachable waiters triggers signal)
      (hstep : Step signal next) : Reachable waiters triggers next

/-- What every step keeps. -/
structure Sound (signal : Shutdown) : Prop where
  /-- The flag is raised by triggers and by nobody else. -/
  flag_iff : signal.flag = true ↔ ∃ trigger ∈ signal.triggers, trigger ≠ .starting
  returned : .returned ∈ signal.waiters → signal.flag = true
  /-- Whoever waited when a trigger notified has been notified, and nobody begins to wait later. -/
  awake : .completed ∈ signal.triggers → .waiting false ∉ signal.waiters

theorem Sound.flag (hsound : signal.Sound) (hcompleted : .completed ∈ signal.triggers) :
    signal.flag = true :=
  hsound.flag_iff.2 ⟨.completed, hcompleted, nofun⟩

theorem sound_new (waiters triggers : Nat) : (new waiters triggers).Sound where
  flag_iff := by simp [new, List.mem_replicate]
  returned := by simp [new, List.mem_replicate]
  awake := by simp [new, List.mem_replicate]

theorem Sound.setWaiter (hsound : signal.Sound) {later : WaiterState} (index : Nat)
    (hreturned : later = .returned → signal.flag = true)
    (hwaiting : later = .waiting false → signal.flag = false) :
    Sound { signal with waiters := signal.waiters.set index later } where
  flag_iff := hsound.flag_iff
  returned := by
    intro hmem
    obtain hmem | rfl := List.mem_or_eq_of_mem_set hmem
    · exact hsound.returned hmem
    · exact hreturned rfl
  awake := by
    intro hcompleted hmem
    obtain hmem | rfl := List.mem_or_eq_of_mem_set hmem
    · exact hsound.awake hcompleted hmem
    · have hraised := hsound.flag hcompleted
      rw [hwaiting rfl] at hraised
      cases hraised

theorem Sound.raise (hsound : signal.Sound) {index : Nat}
    (htrigger : signal.triggers[index]? = some .starting) :
    Sound { signal with flag := true, triggers := signal.triggers.set index .raised } where
  flag_iff := by
    obtain ⟨hindex, -⟩ := List.getElem?_eq_some_iff.1 htrigger
    exact ⟨fun _ => ⟨.raised, List.mem_set hindex .raised, nofun⟩, fun _ => rfl⟩
  returned := fun _ => rfl
  awake := by
    intro hcompleted
    obtain hcompleted | heq := List.mem_or_eq_of_mem_set hcompleted
    · exact hsound.awake hcompleted
    · cases heq

theorem Sound.notify (hsound : signal.Sound) {index : Nat}
    (htrigger : signal.triggers[index]? = some .raised) :
    Sound { signal with
      waiters := signal.waiters.map WaiterState.notify
      triggers := signal.triggers.set index .completed } where
  flag_iff := by
    obtain ⟨hindex, -⟩ := List.getElem?_eq_some_iff.1 htrigger
    have hflag : signal.flag = true :=
      hsound.flag_iff.2 ⟨.raised, List.mem_of_getElem? htrigger, nofun⟩
    exact ⟨fun _ => ⟨.completed, List.mem_set hindex .completed, nofun⟩, fun _ => hflag⟩
  returned := by
    intro hmem
    obtain ⟨state, hmem, hstate⟩ := List.mem_map.1 hmem
    rw [WaiterState.notify_eq_returned_iff.1 hstate] at hmem
    exact hsound.returned hmem
  awake := by
    intro _ hmem
    obtain ⟨state, -, hstate⟩ := List.mem_map.1 hmem
    exact state.notify_ne_waiting_false hstate

theorem Step.sound (hstep : Step signal next) (hsound : signal.Sound) : next.Sound := by
  cases hstep with
  | made party hmade =>
    cases party with
    | waiter index =>
      obtain ⟨state, later, -, hnext, rfl⟩ := step?_waiter_iff.1 hmade
      refine hsound.setWaiter index ?_ ?_
      · rintro rfl
        exact WaiterState.flag_of_next?_eq_returned hnext
      · rintro rfl
        exact WaiterState.flag_of_next?_eq_waiting hnext
    | trigger index =>
      obtain ⟨htrigger, rfl⟩ | ⟨htrigger, rfl⟩ := step?_trigger_iff.1 hmade
      · exact hsound.raise htrigger
      · exact hsound.notify htrigger
  | renewed hstate hwaits => exact hsound.setWaiter _ nofun nofun

theorem Reachable.sound {waiters triggers : Nat} (hreach : Reachable waiters triggers signal) :
    signal.Sound := by
  induction hreach with
  | initially => exact sound_new waiters triggers
  | step _ hstep ih => exact hstep.sound ih

theorem Reachable.foldlM {waiters triggers : Nat} (hreach : Reachable waiters triggers signal)
    (steps : List ShutdownStep) (hsteps : steps.foldlM step? signal = some after) :
    Reachable waiters triggers after := by
  induction steps generalizing signal with
  | nil =>
    cases hsteps
    exact hreach
  | cons party rest ih =>
    rw [List.foldlM_cons] at hsteps
    obtain ⟨next, hstep, hrest⟩ := Option.bind_eq_some_iff.1 hsteps
    exact ih (hreach.step (.made party hstep)) hrest

/-- With the flag raised, a waiter comes closer to its return by its own steps, and steps of others do
not set it back. -/
theorem stepsLeft_step? {party : ShutdownStep} (hflag : signal.flag = true)
    (hstep : signal.step? party = some next) {index : Nat} {state : WaiterState}
    (hstate : signal.waiters[index]? = some state) :
    ∃ later, next.waiters[index]? = some later ∧
      later.stepsLeft + [party].count (.waiter index) = state.stepsLeft := by
  cases party with
  | waiter other =>
    obtain ⟨moved, later, hmoved, hnext, rfl⟩ := step?_waiter_iff.1 hstep
    obtain ⟨hother, -⟩ := List.getElem?_eq_some_iff.1 hmoved
    by_cases hindex : other = index
    · subst hindex
      rw [hstate] at hmoved
      cases hmoved
      rw [hflag] at hnext
      refine ⟨later, by simp [hother], ?_⟩
      simpa using WaiterState.stepsLeft_next? hnext
    · refine ⟨state, ?_, ?_⟩
      · rw [List.getElem?_set_ne hindex]
        exact hstate
      · simp [hindex]
  | trigger other =>
    obtain ⟨-, rfl⟩ | ⟨-, rfl⟩ := step?_trigger_iff.1 hstep
    · exact ⟨state, hstate, by simp⟩
    · exact ⟨state.notify, by simp [hstate], by simp⟩

theorem flag_step? {party : ShutdownStep} (hflag : signal.flag = true)
    (hstep : signal.step? party = some next) : next.flag = true := by
  cases party with
  | waiter index =>
    obtain ⟨state, later, -, -, rfl⟩ := step?_waiter_iff.1 hstep
    exact hflag
  | trigger index =>
    obtain ⟨-, rfl⟩ | ⟨-, rfl⟩ := step?_trigger_iff.1 hstep
    · rfl
    · exact hflag

theorem stepsLeft_foldlM {steps : List ShutdownStep} (hflag : signal.flag = true)
    (hsteps : steps.foldlM step? signal = some after) {index : Nat} {state : WaiterState}
    (hstate : signal.waiters[index]? = some state) :
    ∃ later, after.waiters[index]? = some later ∧
      later.stepsLeft + steps.count (.waiter index) = state.stepsLeft := by
  induction steps generalizing signal state with
  | nil =>
    cases hsteps
    exact ⟨state, hstate, rfl⟩
  | cons party rest ih =>
    rw [List.foldlM_cons] at hsteps
    obtain ⟨next, hstep, hrest⟩ := Option.bind_eq_some_iff.1 hsteps
    obtain ⟨middle, hmiddle, hone⟩ := stepsLeft_step? hflag hstep hstate
    obtain ⟨later, hlater, hothers⟩ := ih (flag_step? hflag hstep) hrest hmiddle
    have hcount : (party :: rest).count (.waiter index) =
        [party].count (.waiter index) + rest.count (.waiter index) := by
      rw [← List.count_append, List.singleton_append]
    exact ⟨later, hlater, by omega⟩

/-- What can be relied on, whatever the order of the steps. -/
structure Reliable (signal : Shutdown) : Prop where
  /-- Nobody returns before a trigger has raised the flag. -/
  returned : .returned ∈ signal.waiters →
    signal.flag = true ∧ ∃ trigger ∈ signal.triggers, trigger ≠ .starting
  /-- Once a trigger has completed, nobody waits for a notification: whoever has not returned can make
  a step. -/
  unblocked : .completed ∈ signal.triggers → ∀ (index : Nat) (state : WaiterState),
    signal.waiters[index]? = some state → state ≠ .waiting false ∧
      (state ≠ .returned → ∃ next, signal.step? (.waiter index) = some next)
  /-- A waiter has at most three of these steps ahead of it, whatever the others do, and then it has
  returned. -/
  returns : .completed ∈ signal.triggers → ∀ (index : Nat) (state : WaiterState),
    signal.waiters[index]? = some state → ∃ left ≤ 3, ∀ (steps : List ShutdownStep) (after : Shutdown),
      steps.foldlM step? signal = some after → steps.count (.waiter index) ≤ left ∧
        (steps.count (.waiter index) = left → after.waiters[index]? = some .returned)

/-- No wakeup is lost: in whatever order any number of waiters and triggers make their steps, and
however often waiters give up and wait anew, a trigger that has completed lets every waiter return, and
no waiter returns before. -/
theorem reachable_reliable {waiters triggers : Nat} (hreach : Reachable waiters triggers signal) :
    Reliable signal := by
  have hsound := hreach.sound
  refine ⟨?_, ?_, ?_⟩
  · intro hmem
    have hflag := hsound.returned hmem
    exact ⟨hflag, hsound.flag_iff.1 hflag⟩
  · intro hcompleted index state hstate
    have hawake : state ≠ .waiting false := by
      rintro rfl
      exact hsound.awake hcompleted (List.mem_of_getElem? hstate)
    refine ⟨hawake, fun hreturned => ?_⟩
    cases hnext : state.next? signal.flag with
    | none => exact ((WaiterState.next?_eq_none_iff.1 hnext).elim hreturned hawake).elim
    | some later => exact ⟨_, step?_waiter_iff.2 ⟨state, later, hstate, hnext, rfl⟩⟩
  · intro hcompleted index state hstate
    refine ⟨state.stepsLeft, state.stepsLeft_le, fun steps after hsteps => ?_⟩
    obtain ⟨later, hlater, hleft⟩ := stepsLeft_foldlM (hsound.flag hcompleted) hsteps hstate
    refine ⟨by omega, fun hall => ?_⟩
    have hnone : later.stepsLeft = 0 := by omega
    rw [hlater, WaiterState.stepsLeft_eq_zero_iff.1 hnone]

/-- One waiter looked at the flag just before it was raised, and another has subscribed but not looked
yet, when a trigger notifies. -/
theorem reachable_reliable_of_late_look :
    Reachable 2 1 ⟨true, [.waiting true, .subscribed true], [.completed]⟩ ∧
      Reliable ⟨true, [.waiting true, .subscribed true], [.completed]⟩ := by
  have hreach : Reachable 2 1 ⟨true, [.waiting true, .subscribed true], [.completed]⟩ :=
    Reachable.initially.foldlM [.waiter 0, .waiter 0, .waiter 1, .trigger 0, .trigger 0] (by decide)
  exact ⟨hreach, reachable_reliable hreach⟩

end Shutdown

end EventRelay
