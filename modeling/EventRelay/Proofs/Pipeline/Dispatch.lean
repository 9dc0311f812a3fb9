import EventRelay.Proofs.Pipeline.Composed
import EventRelay.Proofs.Pipeline.Invocation

namespace EventRelay

open Script

/-- What the tasks of the relay do: the handlers of webhook calls, and the pollers' starts and
ticks. -/
inductive Job
  | respond (server : Http.Server) (request : Http.Request)
  | start (poller : Poller)
  | tick (poller : Poller)

def Job.work : Job → RelayM Unit
  | respond server request => (server.respond request).bind fun _ => .done ()
  | start poller => poller.start.bind fun _ => .done ()
  | tick poller => poller.tick.bind fun _ => .done ()

theorem Job.work_composed (job : Job) : Composed job.work := by
  cases job with
  | respond server request => exact (server.respond_composed request).bind fun _ => .done ()
  | start poller => exact poller.start_composed.bind fun _ => .done ()
  | tick poller => exact poller.tick_composed.bind fun _ => .done ()

/-- A task that is in an invocation of the pipeline waits for its outcome. -/
inductive Task
  | outside (work : RelayM Unit)
  | inside (index : Nat) (next : Outcome → RelayM Unit)

/-- The relay, with all invocations so far in the order in which they began. -/
structure RelayState where
  shared : Shared
  invocations : List Invocation
  tasks : List Task

namespace RelayState

/-- The steps of the relay, in any order. Any number of jobs may begin at any time, tasks may stop
anywhere for good, and what a task asks about an account may be answered in any way. -/
inductive Step : RelayState → RelayState → Prop
  | begin {shared : Shared} {invocations : List Invocation} {tasks : List Task} (job : Job) :
      Step ⟨shared, invocations, tasks⟩ ⟨shared, invocations, .outside job.work :: tasks⟩
  | answer {shared : Shared} {invocations : List Invocation} {before after : List Task}
      {question : Effect} {next : question.Answer → RelayM Unit} (hquestion : question.IsAccount)
      (answer : question.Answer) :
      Step ⟨shared, invocations, before ++ .outside (.ask question next) :: after⟩
        ⟨shared, invocations, before ++ .outside (next answer) :: after⟩
  | enter {shared : Shared} {invocations : List Invocation} {before after : List Task}
      {work : RelayM Unit} (event : Event) (rules : List Rule) (next : Outcome → RelayM Unit)
      (hwork : work = (Pipeline.process event rules).bind next)
      (hnext : ∀ outcome, Composed (next outcome)) :
      Step ⟨shared, invocations, before ++ .outside work :: after⟩
        ⟨shared, invocations ++ [.begin event rules],
          before ++ .inside invocations.length next :: after⟩
  | invocation {shared shared' : Shared} {before after : List Invocation}
      {invocation invocation' : Invocation} {tasks : List Task}
      (hstep : Invocation.Step shared invocation shared' invocation') :
      Step ⟨shared, before ++ invocation :: after, tasks⟩
        ⟨shared', before ++ invocation' :: after, tasks⟩
  | leave {shared : Shared} {invocations : List Invocation} {before after : List Task}
      {index : Nat} {next : Outcome → RelayM Unit} {invocation : Invocation} {outcome : Outcome}
      (hinvocation : invocations[index]? = some invocation)
      (houtcome : invocation.rest = .done outcome) :
      Step ⟨shared, invocations, before ++ .inside index next :: after⟩
        ⟨shared, invocations, before ++ .outside (next outcome) :: after⟩
  | sweep {dedup : Deduplicator} {reading : Nat} {invocations : List Invocation}
      {tasks : List Task} {time : Nat} (hreading : reading ≤ time) :
      Step ⟨⟨dedup, reading⟩, invocations, tasks⟩
        ⟨⟨(dedup.sweep time).2, time⟩, invocations, tasks⟩

/-- All that the relay can come to with a window. -/
inductive Reachable (ttl : Nat) : RelayState → Prop
  | initial : Reachable ttl ⟨⟨.new ttl, 0⟩, [], []⟩
  | step {state state' : RelayState} (hreachable : Reachable ttl state) (hstep : Step state state') :
      Reachable ttl state'

end RelayState

namespace Invocation

/-- Two invocations were not let through for one key within a window. -/
def Apart (ttl : Nat) (first second : Invocation) : Prop :=
  ∀ check ∈ first.checks, ∀ other ∈ second.checks, check.allowed = true → other.allowed = true →
    check.key = other.key → check.time + ttl ≤ other.time ∨ other.time + ttl ≤ check.time

theorem Apart.symm {ttl : Nat} {first second : Invocation} (hapart : first.Apart ttl second) :
    second.Apart ttl first := by
  intro check hcheck other hother hallowed hallowed' hkey
  exact (hapart other hother check hcheck hallowed' hallowed hkey.symm).symm

/-- Two invocations that both made a call for one key were let through at least a window apart. -/
def CallsApart (ttl : Nat) (first second : Invocation) : Prop :=
  first.calls ≠ [] → second.calls ≠ [] → ∃ time time',
    first.checks = [⟨first.event.dedupKey, time, true⟩] ∧
    second.checks = [⟨second.event.dedupKey, time', true⟩] ∧
    (time + ttl ≤ time' ∨ time' + ttl ≤ time)

theorem Apart.callsApart {ttl : Nat} {first second : Invocation} (hapart : first.Apart ttl second)
    (hfirst : first.Lawful) (hsecond : second.Lawful)
    (hkey : first.event.dedupKey = second.event.dedupKey) : first.CallsApart ttl second := by
  intro hcalls hcalls'
  obtain ⟨time, hchecks⟩ := hfirst.allowed hcalls
  obtain ⟨time', hchecks'⟩ := hsecond.allowed hcalls'
  refine ⟨time, time', hchecks, hchecks', ?_⟩
  refine hapart ⟨_, time, true⟩ ?_ ⟨_, time', true⟩ ?_ rfl rfl hkey
  · rw [hchecks]
    exact List.mem_singleton_self _
  · rw [hchecks']
    exact List.mem_singleton_self _

end Invocation

namespace RelayState

/-- The invariant of the steps. The deduplicator remembers all grants, no invocation was let through
without one, and no two were within a window. -/
structure Sound (ttl : Nat) (granted : List (String × Nat)) (state : RelayState) : Prop where
  ttl_eq : state.shared.dedup.ttl = ttl
  remembers : state.shared.dedup.Remembers granted state.shared.reading
  le_reading : ∀ key time, (key, time) ∈ granted → time ≤ state.shared.reading
  stage : ∀ invocation ∈ state.invocations, invocation.Stage invocation.event invocation.rules
  granted : ∀ invocation ∈ state.invocations, ∀ check ∈ invocation.checks, check.allowed = true →
    (check.key, check.time) ∈ granted
  apart : state.invocations.Pairwise (Invocation.Apart ttl)

theorem sound_initial (ttl : Nat) : Sound ttl [] ⟨⟨.new ttl, 0⟩, [], []⟩ :=
  ⟨rfl, .new ttl, by simp, by simp, by simp, .nil⟩

variable {ttl : Nat} {granted : List (String × Nat)} {state state' : RelayState}

private theorem forall_mem_replace {α : Type} {P : α → Prop} {before after : List α} {old new : α}
    (hold : ∀ item ∈ before ++ old :: after, P item) (hnew : P new) :
    ∀ item ∈ before ++ new :: after, P item := by
  intro item hmem
  obtain hmem | hmem := List.mem_append.1 hmem
  · exact hold item (List.mem_append_left _ hmem)
  · obtain rfl | hmem := List.mem_cons.1 hmem
    · exact hnew
    · exact hold item (List.mem_append_right _ (List.mem_cons_of_mem _ hmem))

/-- A check that lets a key through is a window apart from all those that did so before. -/
private theorem apart_of_allowed {dedup : Deduplicator} {reading time : Nat} {key : String}
    (hremembers : dedup.Remembers granted reading)
    (hle : ∀ key time, (key, time) ∈ granted → time ≤ reading) (hreading : reading ≤ time)
    (hallowed : (dedup.allow key time).1 = true) (httl : dedup.ttl = ttl)
    {invocation other : Invocation} (hchecks : invocation.checks = [⟨key, time, true⟩])
    (hgranted : ∀ check ∈ other.checks, check.allowed = true → (check.key, check.time) ∈ granted) :
    invocation.Apart ttl other := by
  intro check hcheck second hsecond _ hyes hkey
  rw [hchecks] at hcheck
  obtain rfl := List.mem_singleton.1 hcheck
  have hgrant := hgranted second hsecond hyes
  rw [← hkey] at hgrant
  have hage : dedup.ttl ≤ time - second.time :=
    (hremembers.allows_iff key hreading).1 hallowed second.time hgrant
  have hearlier : second.time ≤ reading := hle key second.time hgrant
  change time + ttl ≤ second.time ∨ second.time + ttl ≤ time
  omega

/-- One of the invocations takes a step. Only its check matters to the others. -/
private theorem Sound.invocation {shared shared' : Shared} {before after : List Invocation}
    {invocation invocation' : Invocation} {tasks : List Task}
    (hsound : Sound ttl granted ⟨shared, before ++ invocation :: after, tasks⟩)
    (hstep : Invocation.Step shared invocation shared' invocation') :
    ∃ granted', Sound ttl granted' ⟨shared', before ++ invocation' :: after, tasks⟩ := by
  obtain ⟨httl, hremembers, hle, hstage, hgranted, hapart⟩ := hsound
  have hmem : invocation ∈ before ++ invocation :: after :=
    List.mem_append_right _ (List.mem_cons_self ..)
  obtain ⟨hstage', hchange⟩ := (hstage invocation hmem).step hstep
  obtain ⟨hevent, hrules⟩ := hstage'.event_eq
  have hstages := forall_mem_replace hstage (by rwa [hevent, hrules])
  have symm {first second : Invocation} (hfirst : first.Apart ttl second) :
      second.Apart ttl first := hfirst.symm
  rw [List.pairwise_middle symm, List.pairwise_cons] at hapart
  obtain ⟨hfrom, hrest⟩ := hapart
  -- Without a check neither the deduplicator nor the grants change.
  obtain ⟨rfl, hchecks⟩ | ⟨time, hreading, rfl, hchecks⟩ := hchange
  · refine ⟨granted, httl, hremembers, hle, hstages, forall_mem_replace hgranted ?_, ?_⟩
    · rw [hchecks]
      exact hgranted invocation hmem
    · rw [List.pairwise_middle symm, List.pairwise_cons]
      refine ⟨fun other hother => ?_, hrest⟩
      intro check hcheck
      rw [hchecks] at hcheck
      exact hfrom other hother check hcheck
  · have hgrants := (hremembers.allow invocation.event.dedupKey hreading).mono hreading
    cases hallowed : (shared.dedup.allow invocation.event.dedupKey time).1 with
    | false =>
      rw [hallowed] at hchecks hgrants
      refine ⟨granted, ?_, by simpa using hgrants, ?_, hstages, forall_mem_replace hgranted ?_, ?_⟩
      · simpa using httl
      · exact fun key grant hgrant => Nat.le_trans (hle key grant hgrant) hreading
      · simp [hchecks]
      · rw [List.pairwise_middle symm, List.pairwise_cons]
        refine ⟨fun other hother => ?_, hrest⟩
        simp [Invocation.Apart, hchecks]
    | true =>
      rw [hallowed] at hchecks hgrants
      have hkept : ∀ other ∈ before ++ invocation :: after, ∀ check ∈ other.checks,
          check.allowed = true →
            (check.key, check.time) ∈ granted ++ [(invocation.event.dedupKey, time)] :=
        fun other hother check hcheck hyes =>
          List.mem_append_left _ (hgranted other hother check hcheck hyes)
      refine ⟨granted ++ [(invocation.event.dedupKey, time)], ?_, by simpa using hgrants, ?_,
        hstages, forall_mem_replace hkept ?_, ?_⟩
      · simpa using httl
      · intro key grant hgrant
        obtain hgrant | hgrant := List.mem_append.1 hgrant
        · exact Nat.le_trans (hle key grant hgrant) hreading
        · obtain ⟨-, rfl⟩ := Prod.mk.inj (List.mem_singleton.1 hgrant)
          exact Nat.le_refl grant
      · intro check hcheck _
        rw [hchecks] at hcheck
        obtain rfl := List.mem_singleton.1 hcheck
        exact List.mem_append_right _ (List.mem_singleton_self _)
      · rw [List.pairwise_middle symm, List.pairwise_cons]
        refine ⟨fun other hother => ?_, hrest⟩
        refine apart_of_allowed hremembers hle hreading hallowed httl hchecks (hgranted other ?_)
        obtain hother | hother := List.mem_append.1 hother
        · exact List.mem_append_left _ hother
        · exact List.mem_append_right _ (List.mem_cons_of_mem _ hother)

theorem Step.sound (hstep : Step state state') (hsound : state.Sound ttl granted) :
    ∃ granted', state'.Sound ttl granted' := by
  cases hstep with
  | begin | answer | leave =>
    obtain ⟨httl, hremembers, hle, hstage, hgranted, hapart⟩ := hsound
    exact ⟨granted, httl, hremembers, hle, hstage, hgranted, hapart⟩
  | enter event rules =>
    obtain ⟨httl, hremembers, hle, hstage, hgranted, hapart⟩ := hsound
    refine ⟨granted, httl, hremembers, hle, ?_, ?_, ?_⟩
    · intro invocation hmem
      obtain hmem | hmem := List.mem_append.1 hmem
      · exact hstage invocation hmem
      · obtain rfl := List.mem_singleton.1 hmem
        exact Invocation.stage_begin event rules
    · intro invocation hmem
      obtain hmem | hmem := List.mem_append.1 hmem
      · exact hgranted invocation hmem
      · obtain rfl := List.mem_singleton.1 hmem
        simp [Invocation.begin]
    · rw [List.pairwise_append]
      refine ⟨hapart, List.pairwise_singleton _ _, ?_⟩
      intro first _ second hsecond
      obtain rfl := List.mem_singleton.1 hsecond
      simp [Invocation.Apart, Invocation.begin]
  | invocation hstep => exact hsound.invocation hstep
  | @sweep dedup reading invocations tasks time hreading =>
    obtain ⟨httl, hremembers, hle, hstage, hgranted, hapart⟩ := hsound
    refine ⟨granted, httl, ?_, ?_, hstage, hgranted, hapart⟩
    · have hswept := hremembers.sweep time
      rwa [Nat.max_eq_right hreading] at hswept
    · exact fun key grant hgrant => Nat.le_trans (hle key grant hgrant) hreading

theorem Reachable.sound (hreachable : Reachable ttl state) :
    ∃ granted, state.Sound ttl granted := by
  induction hreachable with
  | initial => exact ⟨[], sound_initial ttl⟩
  | step _ hstep ih =>
    obtain ⟨granted, hsound⟩ := ih
    exact hstep.sound hsound

/-- A task that is outside of the pipeline is composed, and so it ends, asks about an account or enters
an invocation next. One that is inside waits for an invocation that has begun. -/
inductive Resumes (count : Nat) : Task → Prop
  | outside {work : RelayM Unit} (hwork : Composed work) : Resumes count (.outside work)
  | inside {index : Nat} {next : Outcome → RelayM Unit} (hindex : index < count)
      (hnext : ∀ outcome, Composed (next outcome)) : Resumes count (.inside index next)

theorem Resumes.mono {count count' : Nat} {task : Task} (hresumes : Resumes count task)
    (hle : count ≤ count') : Resumes count' task := by
  cases hresumes with
  | outside hwork => exact .outside hwork
  | inside hindex hnext => exact .inside (Nat.lt_of_lt_of_le hindex hle) hnext

theorem Step.resumes (hstep : Step state state')
    (hresumes : ∀ task ∈ state.tasks, Resumes state.invocations.length task) :
    ∀ task ∈ state'.tasks, Resumes state'.invocations.length task := by
  have focus {count : Nat} {before after : List Task} {old : Task}
      (htasks : ∀ task ∈ before ++ old :: after, Resumes count task) : Resumes count old :=
    htasks old (List.mem_append_right _ (List.mem_cons_self ..))
  cases hstep with
  | begin job =>
    intro task hmem
    obtain rfl | hmem := List.mem_cons.1 hmem
    · exact .outside job.work_composed
    · exact hresumes task hmem
  | answer hquestion answer =>
    refine forall_mem_replace hresumes ?_
    cases focus hresumes with
    | outside hwork => exact .outside (hwork.of_ask hquestion answer)
  | @enter _ invocations _ _ _ event rules next hwork hnext =>
    have hlength : invocations.length < (invocations ++ [Invocation.begin event rules]).length := by
      simp
    exact forall_mem_replace (fun task hmem => (hresumes task hmem).mono (Nat.le_of_lt hlength))
      (.inside hlength hnext)
  | invocation hstep => simpa using hresumes
  | leave hinvocation houtcome =>
    refine forall_mem_replace hresumes ?_
    cases focus hresumes with
    | inside hindex hnext => exact .outside (hnext _)
  | sweep => exact hresumes

/-- The steps leave out nothing that a task can do. -/
theorem Reachable.resumes (hreachable : Reachable ttl state) :
    ∀ task ∈ state.tasks, Resumes state.invocations.length task := by
  induction hreachable with
  | initial => simp
  | step _ hstep ih => exact hstep.resumes ih

/-- A tick that is told of one message passes it to the pipeline and then saves the position. -/
theorem tick_work_eq (account : String) (rules : List Rule) (message : MailMessage)
    (position next : UInt64) :
    ∃ told : Except HistoryError HistoryPage → RelayM Unit,
      (Job.tick ⟨account, rules, .tracking position⟩).work =
          .ask (.historySince account position) told ∧
        told (.ok ⟨[message], next⟩) =
          (Pipeline.process (message.toEvent account) rules).bind fun _ =>
            .ask (.saveCursor account (max next position)) fun _ => .done () := by
  refine ⟨_, rfl, ?_⟩
  change (((Pipeline.process (message.toEvent account) rules).bind _).bind _).bind _ = _
  rw [bind_assoc, bind_assoc]
  congr 1
  funext outcome
  change Script.ask (Effect.saveCursor account (max next position)) _ = .ask _ _
  congr 1
  funext saved
  cases saved <;> rfl

theorem Reachable.tick_enters (hreachable : Reachable ttl state) (account : String)
    (rules : List Rule) (message : MailMessage) (position next : UInt64) :
    ∃ resume, Reachable ttl ⟨state.shared,
      state.invocations ++ [.begin (message.toEvent account) rules],
      .inside state.invocations.length resume :: state.tasks⟩ := by
  obtain ⟨told, hwork, htold⟩ := tick_work_eq account rules message position next
  have hbegun := hreachable.step (.begin (.tick ⟨account, rules, .tracking position⟩))
  rw [hwork] at hbegun
  have hanswered := hbegun.step (@Step.answer _ _ [] _ (.historySince account position) told trivial
    (.ok ⟨[message], next⟩))
  exact ⟨_, hanswered.step (@Step.enter _ _ [] _ _ _ rules _ htold
    fun _ => .ask trivial fun _ => .done ())⟩

/-- An invocation that is let through and has a rule makes its call. -/
theorem Reachable.calls {shared : Shared} {invocations : List Invocation} {tasks : List Task}
    {event : Event} {rules : List Rule} {rule : Rule} {time : Nat}
    (hreachable : Reachable ttl ⟨shared, invocations ++ [.begin event rules], tasks⟩)
    (hrule : Rule.findFirst? rules event.kind event.facts = some rule)
    (hreading : shared.reading ≤ time)
    (hallowed : (shared.dedup.allow event.dedupKey time).1 = true) :
    ∃ invocation : Invocation, invocation.event = event ∧ invocation.calls ≠ [] ∧
      Reachable ttl ⟨⟨(shared.dedup.allow event.dedupKey time).2, time⟩,
        invocations ++ [invocation], tasks⟩ := by
  have htimed := hreachable.step (.invocation (.clock time))
  have hchecked : Reachable ttl ⟨_, invocations ++ [⟨event, rules, Pipeline.afterCheck event rules
      (shared.dedup.allow event.dedupKey time).1, _, _, _⟩], tasks⟩ :=
    htimed.step (.invocation (.check hreading))
  rw [hallowed, Pipeline.afterCheck_of_rule hrule] at hchecked
  exact ⟨_, rfl, List.cons_ne_nil _ _, hchecked.step (.invocation (.call rfl))⟩

/-- At most one dispatch for each key and window, over all handlers, pollers and sweeps and in any
order of their steps. A page that is fetched again makes the same events with the same keys, so its
messages are not dispatched again within the window. -/
theorem dispatches_apart {ttl : Nat} {state : RelayState} (hreachable : Reachable ttl state) :
    (∀ invocation ∈ state.invocations, invocation.Lawful) ∧
      (state.invocations.Pairwise fun first second =>
        first.event.dedupKey = second.event.dedupKey → first.CallsApart ttl second) ∧
      (state.invocations.Pairwise fun first second =>
        ∀ (account : String) (message message' : MailMessage),
          first.event = message.toEvent account → second.event = message'.toEvent account →
            message.id = message'.id → first.CallsApart ttl second) := by
  obtain ⟨granted, hsound⟩ := hreachable.sound
  have hlawful : ∀ invocation ∈ state.invocations, invocation.Lawful :=
    fun invocation hmem => (hsound.stage invocation hmem).lawful
  have hapart := hsound.apart.imp_of_mem fun hfirst hsecond hapart hkey =>
    hapart.callsApart (hlawful _ hfirst) (hlawful _ hsecond) hkey
  refine ⟨hlawful, hapart, hapart.imp ?_⟩
  intro first second hcalls account message message' hfirst hsecond hid
  refine hcalls ?_
  simp [hfirst, hsecond, Event.dedupKey, MailMessage.toEvent, hid]

/-- Two ticks are told of one message, and both dispatch it, exactly a window apart. -/
theorem dispatches_apart_at_boundary : ∃ (state : RelayState) (first second : Invocation),
    Reachable 5 state ∧ state.invocations = [first, second] ∧
      first.event.dedupKey = second.event.dedupKey ∧ first.calls ≠ [] ∧ second.calls ≠ [] ∧
      first.CallsApart 5 second := by
  let message : MailMessage := ⟨"m", "t", [], "", "", ""⟩
  let rule : Rule := ⟨"", MailMessage.messageAdded, .always, .anything, .unset⟩
  have hrule : Rule.findFirst? [rule] (message.toEvent "a").kind (message.toEvent "a").facts =
      some rule := by decide
  let key := (message.toEvent "a").dedupKey
  have honce : ((Deduplicator.new 5).allow key 3).1 = true := by decide
  have hagain : (((Deduplicator.new 5).allow key 3).2.allow key 8).1 = true := by decide
  have hinitial : Reachable 5 ⟨⟨.new 5, 0⟩, [], []⟩ := .initial
  obtain ⟨resume, hentered⟩ := hinitial.tick_enters "a" [rule] message 1 2
  obtain ⟨first, hfirst, hcalls, hcalled⟩ := hentered.calls hrule (Nat.zero_le 3) honce
  obtain ⟨resume', hentered'⟩ := hcalled.tick_enters "a" [rule] message 1 2
  obtain ⟨second, hsecond, hcalls', hcalled'⟩ :=
    hentered'.calls hrule (show 3 ≤ 8 by decide) hagain
  have hkey : first.event.dedupKey = second.event.dedupKey := by rw [hfirst, hsecond]
  obtain ⟨-, hapart, -⟩ := dispatches_apart hcalled'
  refine ⟨_, first, second, hcalled', rfl, hkey, hcalls, hcalls', ?_⟩
  exact List.rel_of_pairwise_cons hapart (List.mem_singleton_self _) hkey

end RelayState

end EventRelay
