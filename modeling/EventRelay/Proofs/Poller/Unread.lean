import EventRelay.Proofs.Poller.Coherence

namespace EventRelay.Poller

open Script

variable {account : String} {saved saved' : Option UInt64} {trace : List (Sigma Effect.Answer)}

/-- The starts and ticks that one poller has finished, the latest first, and the position that is saved
after them. They may come in any order, any load and any save may fail, and the mailbox may answer
anything. What was saved when the poller was made may be anything too, and only the poller saves a
position of the account since. -/
inductive Life (account : String) : List Record → Poller → Option UInt64 → Prop
  | made (rules : List Rule) (saved : Option UInt64) :
      Life account [] (Poller.new account rules) saved
  | start {records : List Record} {poller after : Poller} {saved saved' : Option UInt64}
      {trace : List (Sigma Effect.Answer)} (hlife : Life account records poller saved)
      (hreturns : poller.start.Returns trace after) (hcursor : CursorRun account saved trace saved') :
      Life account (⟨.start, trace, poller.state, after.state, saved, saved'⟩ :: records) after saved'
  | tick {records : List Record} {poller after : Poller} {saved saved' : Option UInt64}
      {trace : List (Sigma Effect.Answer)} {outcome : TickOutcome}
      (hlife : Life account records poller saved)
      (hreturns : poller.tick.Returns trace (outcome, after))
      (hcursor : CursorRun account saved trace saved') :
      Life account (⟨.tick outcome, trace, poller.state, after.state, saved, saved'⟩ :: records) after
        saved'

namespace Record

/-- The saved position could not be read. -/
def Unreadable (account : String) (record : Record) : Prop :=
  ∃ error, ⟨.loadCursor account, .error error⟩ ∈ record.trace

/-- Everything after a position was asked for and passed to the pipeline, and only then was a position
saved that is not before it. -/
def PassedOn (account : String) (position : UInt64) (record : Record) : Prop :=
  ∃ (poller : Poller) (page : HistoryPage) (passed : List (Sigma Effect.Answer)),
    poller.account = account ∧ (poller.processAll page.entries).Returns passed () ∧
    record.trace = ⟨.historySince account position, .ok page⟩ ::
      (passed ++ [⟨.saveCursor account (max page.position position), .ok ()⟩]) ∧
    record.savedAfter = some (max page.position position)

/-- The last thing that was done was to save the current position of the mailbox. -/
def Jumped (account : String) (record : Record) : Prop :=
  ∃ earlier next, record.savedAfter = some next ∧
    record.trace = earlier ++ [⟨.highWater account, .ok next⟩, ⟨.saveCursor account next, .ok ()⟩]

end Record

/-- No start of a poller has been able to read what is saved. -/
def Unread (account : String) (records : List Record) : Prop :=
  ∀ record ∈ records, record.move = .start → record.Unreadable account

/-- What a poller remembers agrees with what is saved, unless it has never read that. -/
structure Aware (account : String) (records : List Record) (poller : Poller)
    (saved : Option UInt64) : Prop where
  account_eq : poller.account = account
  uninitialized : poller.state = .uninitialized →
    (∀ position, saved = some position → position = 0) ∨ Unread account records
  tracking : ∀ position, poller.state = .tracking position → saved = some position
  resetting : poller.state = .resetting →
    ∃ position, saved = some position ∧ ExpiredSince account position records

/-- What a record may do to a saved position, after the earlier records. -/
structure Record.Careful (account : String) (record : Record) (earlier : List Record) : Prop where
  /-- A saved position gives way to the position after everything that has been passed on. It gives way
  to the current position of the mailbox only if it expired there, or if it could not be read. -/
  replaced : ∀ position, record.savedBefore = some position → 0 < position →
    record.savedAfter = some position ∨ record.PassedOn account position ∨
      record.Jumped account ∧
        ((record.before = .tracking position ∧ Expired account position record.trace) ∨
          (record.before = .resetting ∧ ExpiredSince account position earlier) ∨
          (record.move = .start ∧ record.Unreadable account) ∨
          (record.before = .uninitialized ∧ Unread account earlier))
  /-- A start that cannot read the saved position leaves everything as it was, or replaces it by the
  current position of the mailbox, and then that is all it does. -/
  unreadable : record.move = .start → record.Unreadable account →
    (record.savedAfter = record.savedBefore ∧ record.after = record.before) ∨
      ∃ error next, record.savedAfter = some next ∧ record.after = .tracking next ∧
        record.trace = [⟨.loadCursor account, .error error⟩, ⟨.highWater account, .ok next⟩,
          ⟨.saveCursor account next, .ok ()⟩]
  /-- A start that can read it goes on from there. -/
  readable : record.move = .start → ¬ record.Unreadable account →
    ∀ position, record.savedBefore = some position → 0 < position →
      record.savedAfter = some position ∧ record.after = .tracking position ∧
        record.trace = [⟨.loadCursor account, .ok (some position)⟩]

theorem Jump.jumped {move : Move} {before after : PollerState} {savedBefore : Option UInt64}
    {position : UInt64} (hjump : Jump account trace (some position))
    (earlier : List (Sigma Effect.Answer)) :
    Record.Jumped account
      ⟨move, earlier ++ trace, before, after, savedBefore, some position⟩ := by
  cases hjump with
  | saved => exact ⟨earlier, position, rfl, rfl⟩

theorem Jump.not_unreadable {move : Move} {before after : PollerState}
    {savedBefore savedAfter result loaded : Option UInt64} (hjump : Jump account trace result) :
    ¬ Record.Unreadable account
      ⟨move, ⟨.loadCursor account, .ok loaded⟩ :: trace, before, after, savedBefore, savedAfter⟩ := by
  rintro ⟨error, hmem⟩
  cases hjump <;> simp at hmem

/-- A tick that resets ends with a jump. -/
theorem Turn.jump_of_reset {poller : Poller} {position : UInt64} {state : PollerState}
    (hturn : Turn poller trace (.reset position) state) :
    ∃ earlier later, trace = earlier ++ later ∧ Jump poller.account later (some position) := by
  cases hturn with
  | reset hstate hjump => exact ⟨[], _, rfl, hjump⟩
  | expiredReset hstate hexpired hjump => exact ⟨[_], _, rfl, hjump⟩

variable {records : List Record} {poller after : Poller}

theorem Aware.of_tracking {position : UInt64} (haccount : poller.account = account)
    (hstate : poller.state = .tracking position) :
    Aware account records poller (some position) :=
  ⟨haccount, by simp [hstate], by simp [hstate], by simp [hstate]⟩

/-- A record that changes nothing leaves a poller as aware as it was, unless a start has read a position
that it does not take up. -/
theorem Aware.unchanged {record : Record} (haware : Aware account records poller saved)
    (hbefore : record.before = poller.state) (hafter : record.after = poller.state)
    (hread : (∀ position, saved = some position → position = 0) ∨
      (record.move = .start → record.Unreadable account)) :
    Aware account (record :: records) poller saved where
  account_eq := haware.account_eq
  uninitialized := by
    intro hstate
    obtain hzero | hunread := haware.uninitialized hstate
    · exact .inl hzero
    · exact hread.imp_right fun hrecord => List.forall_mem_cons.2 ⟨hrecord, hunread⟩
  tracking := haware.tracking
  resetting := by
    intro hstate
    obtain ⟨position, hsaved, hsince⟩ := haware.resetting hstate
    exact ⟨position, hsaved, hafter.trans hstate, .inr ⟨hbefore.trans hstate, hsince⟩⟩

/-- A start that cannot read what is saved jumps, or stays where it is. -/
private theorem unreadable_careful {record : Record} {error : CursorError} {result : Option UInt64}
    (haware : Aware account records poller saved) (hjump : Jump account trace result)
    (hrecord : record = ⟨.start, ⟨.loadCursor account, .error error⟩ :: trace, poller.state,
      (result.map .tracking).getD poller.state, saved, result.or saved⟩) :
    Aware account (record :: records) { poller with state := record.after } record.savedAfter ∧
      record.Careful account records := by
  have hunreadable : record.Unreadable account := ⟨error, by simp [hrecord]⟩
  cases result with
  | none =>
    subst hrecord
    exact ⟨haware.unchanged rfl rfl (.inr fun _ => hunreadable), fun _ hsaved _ => .inl hsaved,
      fun _ _ => .inl ⟨rfl, rfl⟩, fun _ hreadable => absurd hunreadable hreadable⟩
  | some next =>
    subst hrecord
    refine ⟨.of_tracking haware.account_eq rfl, fun _ _ _ => .inr (.inr ⟨hjump.jumped [_], ?_⟩), ?_,
      fun _ hreadable => absurd hunreadable hreadable⟩
    · exact .inr (.inr (.inl ⟨rfl, hunreadable⟩))
    · intro _ _
      cases hjump with
      | saved => exact .inr ⟨error, next, rfl, rfl, rfl⟩

/-- Where a start reads that there is no positive position, there is nothing to lose. -/
private theorem unusable_careful {record : Record} {result : Option UInt64}
    (haware : Aware account records poller saved)
    (hzero : ∀ position, saved = some position → position = 0) (hjump : Jump account trace result)
    (hrecord : record = ⟨.start, ⟨.loadCursor account, .ok saved⟩ :: trace, poller.state,
      (result.map .tracking).getD poller.state, saved, result.or saved⟩) :
    Aware account (record :: records) { poller with state := record.after } record.savedAfter ∧
      record.Careful account records := by
  have hnone : ∀ position, record.savedBefore = some position → ¬ 0 < position := by
    intro position hsaved
    subst hrecord
    rw [hzero position hsaved]
    exact UInt64.lt_irrefl 0
  have hreadable : ¬ record.Unreadable account := by
    subst hrecord
    exact hjump.not_unreadable
  refine ⟨?_, fun position hsaved hpositive => absurd hpositive (hnone position hsaved),
    fun _ hunreadable => absurd hunreadable hreadable,
    fun _ _ position hsaved hpositive => absurd hpositive (hnone position hsaved)⟩
  subst hrecord
  cases result with
  | none => exact haware.unchanged rfl rfl (.inl hzero)
  | some next => exact .of_tracking haware.account_eq rfl

private theorem start_careful (haware : Aware account records poller saved)
    (hreturns : poller.start.Returns trace after) (hcursor : CursorRun account saved trace saved') :
    Aware account (⟨.start, trace, poller.state, after.state, saved, saved'⟩ :: records) after
        saved' ∧
      Record.Careful account ⟨.start, trace, poller.state, after.state, saved, saved'⟩ records := by
  obtain rfl := haware.account_eq
  obtain ⟨position, hpositive, rfl, rfl⟩ | ⟨answer, later, result, hunusable, hjump, rfl, rfl⟩ :=
    start_resumes_or_jumps hreturns
  · obtain ⟨rfl, hloaded⟩ := cursorStep_load_iff.1 (cursorRun_singleton_iff.1 hcursor)
    obtain rfl := hloaded _ rfl
    refine ⟨.of_tracking rfl rfl, fun _ hsaved _ => .inl hsaved, ?_, ?_⟩
    · rintro - ⟨error, hmem⟩
      simp at hmem
    · rintro - - _ ⟨⟩ -
      exact ⟨rfl, rfl, rfl⟩
  · obtain ⟨middle, hstep, hrun⟩ := cursorRun_cons_iff.1 hcursor
    obtain ⟨rfl, hloaded⟩ := cursorStep_load_iff.1 hstep
    obtain rfl := hjump.saved_eq hrun
    cases answer with
    | error error => exact unreadable_careful haware hjump rfl
    | ok loaded =>
      obtain rfl := hloaded loaded rfl
      have hzero : ∀ position, loaded = some position → position = 0 := by
        rintro position rfl
        exact hunusable position rfl
      exact unusable_careful haware hzero hjump rfl

private theorem tick_careful {outcome : TickOutcome} (haware : Aware account records poller saved)
    (hreturns : poller.tick.Returns trace (outcome, after))
    (hcursor : CursorRun account saved trace saved') :
    Aware account (⟨.tick outcome, trace, poller.state, after.state, saved, saved'⟩ :: records) after
        saved' ∧
      Record.Careful account ⟨.tick outcome, trace, poller.state, after.state, saved, saved'⟩
        records := by
  obtain ⟨hturn, hafter⟩ := tick_returns hreturns
  obtain rfl := haware.account_eq
  have haccount : after.account = poller.account := by rw [hafter]
  cases outcome with
  | initialized next =>
    obtain ⟨hbefore, hstate, rfl, hjump⟩ := hturn.of_initialized hcursor
    refine ⟨.of_tracking haccount hstate, ?_, nofun, nofun⟩
    intro position hsaved hpositive
    obtain hzero | hunread := haware.uninitialized hbefore
    · obtain rfl := hzero position hsaved
      exact absurd hpositive (UInt64.lt_irrefl 0)
    · exact .inr (.inr ⟨hjump.jumped [], .inr (.inr (.inr ⟨hbefore, hunread⟩))⟩)
  | processed entries next =>
    obtain ⟨hstate, rfl, old, page, passed, hbefore, -, rfl, rfl, hpassed⟩ :=
      hturn.of_processed hcursor
    refine ⟨.of_tracking haccount hstate, ?_, nofun, nofun⟩
    intro position hsaved _
    obtain rfl : old = position := by simpa [haware.tracking old hbefore] using hsaved
    exact .inr (.inl ⟨poller, page, passed, rfl, hpassed, rfl, rfl⟩)
  | reset next =>
    obtain ⟨hreset, hstate, rfl, -⟩ := hturn.of_reset hcursor
    obtain ⟨earlier, later, rfl, hjump⟩ := hturn.jump_of_reset
    refine ⟨.of_tracking haccount hstate, ?_, nofun, nofun⟩
    intro position hsaved _
    obtain hbefore | ⟨old, hbefore, hexpired⟩ := hreset
    · obtain ⟨old, hold, hsince⟩ := haware.resetting hbefore
      obtain rfl : old = position := by simpa [hold] using hsaved
      exact .inr (.inr ⟨hjump.jumped earlier, .inr (.inl ⟨hbefore, hsince⟩)⟩)
    · obtain rfl : old = position := by simpa [haware.tracking old hbefore] using hsaved
      exact .inr (.inr ⟨hjump.jumped earlier, .inl ⟨hbefore, hexpired⟩⟩)
  | skipped =>
    obtain ⟨rfl, hstate⟩ := hturn.of_skipped hcursor
    refine ⟨?_, fun _ hsaved _ => .inl hsaved, nofun, nofun⟩
    obtain hstate | ⟨old, hbefore, hstate, hexpired⟩ := hstate
    · obtain rfl : after = poller := by rw [hafter, hstate]
      exact haware.unchanged rfl rfl (.inr nofun)
    · refine ⟨haccount, by simp [hstate], by simp [hstate], fun _ => ?_⟩
      exact ⟨old, haware.tracking old hbefore, hstate, .inl ⟨hbefore, hexpired⟩⟩

theorem Life.aware {records : List Record} {poller : Poller}
    (hlife : Life account records poller saved) : Aware account records poller saved := by
  induction hlife with
  | made rules saved =>
    exact ⟨rfl, fun _ => .inr fun _ hmem => absurd hmem List.not_mem_nil, nofun, nofun⟩
  | start hlife hreturns hcursor ih => exact (start_careful ih hreturns hcursor).1
  | tick hlife hreturns hcursor ih => exact (tick_careful ih hreturns hcursor).1

/-- Over the whole life of a poller a positive saved position is replaced only by a position up to which
all mail has been passed on, or by the current position of the mailbox, where it expired or where the
poller could not read it. A start that cannot read it may replace it so, though it leaves it alone if
the mailbox or the save fails. -/
theorem life_careful {records : List Record} {poller : Poller}
    (hlife : Life account records poller saved) {record : Record} {earlier : List Record}
    (hsuffix : record :: earlier <:+ records) : record.Careful account earlier := by
  induction hlife with
  | made rules saved => simp at hsuffix
  | start hlife hreturns hcursor ih =>
    obtain heq | hsuffix := List.suffix_cons_iff.1 hsuffix
    · obtain ⟨rfl, rfl⟩ := List.cons.inj heq
      exact (start_careful hlife.aware hreturns hcursor).2
    · exact ih hsuffix
  | tick hlife hreturns hcursor ih =>
    obtain heq | hsuffix := List.suffix_cons_iff.1 hsuffix
    · obtain ⟨rfl, rfl⟩ := List.cons.inj heq
      exact (tick_careful hlife.aware hreturns hcursor).2
    · exact ih hsuffix

/-- A poller that could neither read the saved position nor ask the mailbox, and is told the current
position by its first tick. -/
theorem life_careful_of_unread : ∃ started ticked : Record,
    Life "a" [ticked, started] ⟨"a", [], .tracking 9⟩ (some 9) ∧
      [ticked, started] <:+ [ticked, started] ∧ ticked.savedBefore = some 5 ∧
      ticked.savedAfter = some 9 ∧ Unread "a" [started] ∧ ticked.Careful "a" [started] := by
  let unreadable : CursorError := .io "gmail-state-a.json" .isDirectory
  let started : Record := ⟨.start, [⟨.loadCursor "a", .error unreadable⟩,
    ⟨.highWater "a", .error (.unauthorized "a")⟩], .uninitialized, .uninitialized, some 5, some 5⟩
  let ticked : Record := ⟨.tick (.initialized 9), [⟨.highWater "a", .ok 9⟩,
    ⟨.saveCursor "a" 9, .ok ()⟩], .uninitialized, .tracking 9, some 5, some 9⟩
  have hstart : (Poller.new "a" []).start.Returns started.trace (Poller.new "a" []) :=
    .answered _ (.answered _ (.stay _))
  have htick : (Poller.new "a" []).tick.Returns ticked.trace
      (.initialized 9, ⟨"a", [], .tracking 9⟩) := .answered _ (.answered _ (.stay _))
  have hstarted : Life "a" [started] (Poller.new "a" []) (some 5) :=
    .start (.made [] (some 5)) hstart
      (.cons (.unreadable _ _) (.cons (.elsewhere _ (by nofun)) (.nil _)))
  have hticked : Life "a" [ticked, started] ⟨"a", [], .tracking 9⟩ (some 9) :=
    .tick hstarted htick (.cons (.elsewhere _ (by nofun)) (.cons (.replaced _ _) (.nil _)))
  have hunread : Unread "a" [started] := by
    intro record hmem _
    obtain rfl := List.mem_singleton.1 hmem
    exact ⟨unreadable, List.mem_cons_self ..⟩
  exact ⟨started, ticked, hticked, List.suffix_refl _, rfl, rfl, hunread,
    life_careful hticked (List.suffix_refl _)⟩

/-- A saved position that never expired can be lost to a failure to read it: the start that fails takes
up the current position of the mailbox, and saves it. -/
theorem not_forall_saved_kept :
    ¬ ∀ (account : String) (records : List Record) (poller : Poller) (saved : Option UInt64),
      Life account records poller saved → ∀ record ∈ records, ∀ position next : UInt64,
        record.savedBefore = some position → 0 < position →
          ⟨.highWater account, .ok next⟩ ∈ record.trace → record.savedAfter = some next →
            next ≠ position → ∃ other ∈ records, Expired account position other.trace := by
  intro hkept
  let started : Record := ⟨.start, [⟨.loadCursor "a", .error (.io "gmail-state-a.json" .isDirectory)⟩,
    ⟨.highWater "a", .ok 9⟩, ⟨.saveCursor "a" 9, .ok ()⟩], .uninitialized, .tracking 9, some 5, some 9⟩
  have hstart : (Poller.new "a" []).start.Returns started.trace ⟨"a", [], .tracking 9⟩ :=
    .answered _ (.answered _ (.answered _ (.stay _)))
  have hlife : Life "a" [started] ⟨"a", [], .tracking 9⟩ (some 9) :=
    .start (.made [] (some 5)) hstart
      (.cons (.unreadable _ _) (.cons (.elsewhere _ (by nofun)) (.cons (.replaced _ _) (.nil _))))
  obtain ⟨other, hmem, error, -, hexpired⟩ := hkept "a" [started] _ _ hlife started
    (List.mem_singleton_self _) 5 9 rfl (by decide) (by simp [started]) rfl (by decide)
  obtain rfl := List.mem_singleton.1 hmem
  simp [started] at hexpired

end EventRelay.Poller
