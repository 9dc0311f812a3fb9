import EventRelay.Proofs.Poller.Cursor

namespace EventRelay.Poller

open Script

variable {account : String} {saved saved' : Option UInt64} {trace : List (Sigma Effect.Answer)}

/-- What a poller is made to do. -/
inductive Move
  | start
  | tick (outcome : TickOutcome)

/-- One finished start or tick: what it asked and was answered, and the state and the saved position
before and after it. -/
structure Record where
  move : Move
  trace : List (Sigma Effect.Answer)
  before : PollerState
  after : PollerState
  savedBefore : Option UInt64
  savedAfter : Option UInt64

/-- The records of an account, the latest first, with the poller in place and the position that is
saved after them. A start puts a new poller in place, and its load succeeds. The mailbox may answer
anything, any save may fail, and nothing but these pollers saves a position of the account. -/
inductive Session (account : String) : List Record → Option Poller → Option UInt64 → Prop
  | fresh (saved : Option UInt64) : Session account [] none saved
  | start {records : List Record} {current : Option Poller} {saved saved' : Option UInt64}
      {trace : List (Sigma Effect.Answer)} {poller : Poller} (rules : List Rule)
      (hsession : Session account records current saved)
      (hreturns : (Poller.new account rules).start.Returns trace poller)
      (hcursor : CursorRun account saved trace saved')
      (hload : ∀ error, ⟨.loadCursor account, .error error⟩ ∉ trace) :
      Session account (⟨.start, trace, .uninitialized, poller.state, saved, saved'⟩ :: records)
        (some poller) saved'
  | tick {records : List Record} {poller after : Poller} {saved saved' : Option UInt64}
      {trace : List (Sigma Effect.Answer)} {outcome : TickOutcome}
      (hsession : Session account records (some poller) saved)
      (hreturns : poller.tick.Returns trace (outcome, after))
      (hcursor : CursorRun account saved trace saved') :
      Session account
        (⟨.tick outcome, trace, poller.state, after.state, saved, saved'⟩ :: records)
        (some after) saved'

/-- A position expired in one of the records, the latest first, and the poller has been resetting ever
since. -/
def ExpiredSince (account : String) (position : UInt64) : List Record → Prop
  | [] => False
  | record :: earlier => record.after = .resetting ∧
      ((record.before = .tracking position ∧ Expired account position record.trace) ∨
        (record.before = .resetting ∧ ExpiredSince account position earlier))

/-- What a poller remembers agrees with what is saved. -/
structure InStep (account : String) (records : List Record) (poller : Poller)
    (saved : Option UInt64) : Prop where
  account_eq : poller.account = account
  uninitialized : poller.state = .uninitialized → ∀ position, saved = some position → position = 0
  tracking : ∀ position, poller.state = .tracking position → saved = some position
  resetting : poller.state = .resetting →
    ∃ position, saved = some position ∧ ExpiredSince account position records

/-- What a record may do to the saved position and to the state, after the earlier records. -/
structure Record.Lawful (account : String) (record : Record) (earlier : List Record) : Prop where
  /-- The saved position moves backwards in resets only. -/
  forward : ∀ position, record.savedBefore = some position →
    (∃ next, record.savedAfter = some next ∧ position ≤ next) ∨
      ∃ next, record.move = .tick (.reset next)
  /-- A reset replaces a saved position that expired, now or before the resets that failed. -/
  reset : ∀ next, record.move = .tick (.reset next) →
    record.after = .tracking next ∧ record.savedAfter = some next ∧
      ∃ position, record.savedBefore = some position ∧
        ((record.before = .tracking position ∧ Expired account position record.trace) ∨
          (record.before = .resetting ∧ ExpiredSince account position earlier))
  processed : ∀ entries next, record.move = .tick (.processed entries next) →
    record.after = .tracking next ∧ record.savedAfter = some next ∧
      ∃ position page passed, record.before = .tracking position ∧
        record.savedBefore = some position ∧ entries = page.entries.length ∧
        next = max page.position position ∧
        record.trace = ⟨.historySince account position, .ok page⟩ ::
          (passed ++ [⟨.saveCursor account next, .ok ()⟩]) ∧
        ∀ exchange ∈ passed, exchange.1.IsPipeline
  skipped : record.move = .tick .skipped →
    record.savedAfter = record.savedBefore ∧ (record.after = record.before ∨
      ∃ position, record.before = .tracking position ∧ record.after = .resetting ∧
        Expired account position record.trace)
  /-- A tick that takes up the current position of the mailbox passes nothing on. -/
  quiet : ∀ next, record.move = .tick (.initialized next) ∨ record.move = .tick (.reset next) →
    ∀ exchange ∈ record.trace, ¬ exchange.1.IsPipeline
  /-- A start resumes a saved position that is positive, and asks the mailbox for nothing. -/
  resumed : record.move = .start → ∀ position, record.savedBefore = some position → 0 < position →
    record.after = .tracking position ∧ record.savedAfter = some position ∧
      record.trace = [⟨.loadCursor account, .ok (some position)⟩]

private theorem start_inStep {records : List Record} {rules : List Rule} {poller : Poller}
    (hreturns : (Poller.new account rules).start.Returns trace poller)
    (hcursor : CursorRun account saved trace saved')
    (hload : ∀ error, ⟨.loadCursor account, .error error⟩ ∉ trace) :
    InStep account (⟨.start, trace, .uninitialized, poller.state, saved, saved'⟩ :: records) poller
        saved' ∧
      Record.Lawful account ⟨.start, trace, .uninitialized, poller.state, saved, saved'⟩ records := by
  obtain ⟨hstartup, hafter⟩ := start_returns rfl hreturns
  have haccount : poller.account = account := by rw [hafter]; rfl
  obtain ⟨position, hpositive, rfl, rfl, hstate, htrace⟩ |
    ⟨hzero, later, result, hjump, htrace, hsaved, hstate⟩ :=
    hstartup.resumed_or_jumped hcursor hload
  · refine ⟨⟨haccount, by simp [hstate], by simp [hstate], by simp [hstate]⟩,
      ⟨?_, nofun, nofun, nofun, nofun, ?_⟩⟩
    · intro other hother
      exact .inl ⟨other, hother, UInt64.le_refl other⟩
    · rintro - other hother -
      obtain rfl := Option.some.inj hother
      exact ⟨hstate, rfl, htrace⟩
  · have hforward : ∀ position, saved = some position →
        ∃ next, saved' = some next ∧ position ≤ next := by
      rintro position rfl
      obtain rfl := hzero position rfl
      cases result with
      | none => exact ⟨0, hsaved, UInt64.le_refl 0⟩
      | some next => exact ⟨next, hsaved, UInt64.zero_le⟩
    refine ⟨⟨haccount, ?_, ?_, ?_⟩, ⟨fun position hposition => .inl (hforward position hposition),
      nofun, nofun, nofun, nofun, ?_⟩⟩
    · intro huninitialized
      cases result with
      | none => rwa [hsaved]
      | some next => simp [hstate] at huninitialized
    · intro position htracking
      cases result with
      | none => simp [hstate] at htracking
      | some next =>
        obtain rfl : next = position := by simpa [hstate] using htracking
        exact hsaved
    · intro hresetting
      cases result <;> simp [hstate] at hresetting
    · rintro - position hposition hpositive
      obtain rfl := hzero position hposition
      exact absurd hpositive (UInt64.lt_irrefl 0)

private theorem tick_inStep {records : List Record} {poller after : Poller} {outcome : TickOutcome}
    (hinStep : InStep account records poller saved)
    (hreturns : poller.tick.Returns trace (outcome, after))
    (hcursor : CursorRun account saved trace saved') :
    InStep account (⟨.tick outcome, trace, poller.state, after.state, saved, saved'⟩ :: records) after
        saved' ∧
      Record.Lawful account ⟨.tick outcome, trace, poller.state, after.state, saved, saved'⟩
        records := by
  obtain ⟨hturn, hafter⟩ := tick_returns hreturns
  obtain ⟨rfl, huninitialized, htracking, hresetting⟩ := hinStep
  have haccount : after.account = poller.account := by rw [hafter]
  cases outcome with
  | initialized next =>
    obtain ⟨hbefore, hstate, rfl, hjump⟩ := hturn.of_initialized hcursor
    refine ⟨⟨haccount, by simp [hstate], by simp [hstate], by simp [hstate]⟩,
      ⟨?_, nofun, nofun, nofun, fun _ _ exchange hmem => hjump.not_isPipeline hmem, nofun⟩⟩
    intro position hposition
    obtain rfl := huninitialized hbefore position hposition
    exact .inl ⟨next, rfl, UInt64.zero_le⟩
  | processed entries next =>
    obtain ⟨hstate, rfl, old, page, passed, hbefore, hentries, hnext, htrace, hpassed⟩ :=
      hturn.of_processed hcursor
    have hsaved := htracking old hbefore
    refine ⟨⟨haccount, by simp [hstate], by simp [hstate], by simp [hstate]⟩,
      ⟨?_, nofun, ?_, nofun, nofun, nofun⟩⟩
    · intro position hposition
      obtain rfl : old = position := by simpa [hsaved] using hposition
      exact .inl ⟨next, rfl, by rw [hnext, UInt64.le_iff_toNat_le, toNat_max]; omega⟩
    · intro entries' next' hmove
      cases hmove
      exact ⟨hstate, rfl, old, page, passed, hbefore, hsaved, hentries, hnext, htrace,
        (hpassed.asksOnly (processAll_asksOnly _ _)).1⟩
  | reset next =>
    obtain ⟨hreset, hstate, rfl, hquiet⟩ := hturn.of_reset hcursor
    refine ⟨⟨haccount, by simp [hstate], by simp [hstate], by simp [hstate]⟩,
      ⟨fun _ _ => .inr ⟨next, rfl⟩, ?_, nofun, nofun, fun _ _ => hquiet, nofun⟩⟩
    intro next' hmove
    cases hmove
    refine ⟨hstate, rfl, ?_⟩
    obtain hbefore | ⟨old, hbefore, hexpired⟩ := hreset
    · obtain ⟨position, hsaved, hsince⟩ := hresetting hbefore
      exact ⟨position, hsaved, .inr ⟨hbefore, hsince⟩⟩
    · exact ⟨old, htracking old hbefore, .inl ⟨hbefore, hexpired⟩⟩
  | skipped =>
    obtain ⟨rfl, hstate⟩ := hturn.of_skipped hcursor
    refine ⟨?_, ⟨fun position hposition => .inl ⟨position, hposition, UInt64.le_refl position⟩,
      nofun, nofun, fun _ => ⟨rfl, hstate⟩, nofun, nofun⟩⟩
    obtain hstate | ⟨old, hbefore, hstate, hexpired⟩ := hstate
    · refine ⟨haccount, by rwa [hstate], by rwa [hstate], ?_⟩
      intro hstill
      have hbefore := hstate.symm.trans hstill
      obtain ⟨position, hsaved, hsince⟩ := hresetting hbefore
      exact ⟨position, hsaved, hstill, .inr ⟨hbefore, hsince⟩⟩
    · refine ⟨haccount, by simp [hstate], by simp [hstate], fun _ => ?_⟩
      exact ⟨old, htracking old hbefore, hstate, .inl ⟨hbefore, hexpired⟩⟩

private theorem lawful_of_suffix_cons {latest : Record} {records : List Record}
    (hlatest : latest.Lawful account records)
    (hrecords : ∀ record earlier, record :: earlier <:+ records → record.Lawful account earlier)
    (record : Record) (earlier : List Record) (hsuffix : record :: earlier <:+ latest :: records) :
    record.Lawful account earlier := by
  obtain heq | hsuffix := List.suffix_cons_iff.1 hsuffix
  · obtain ⟨rfl, rfl⟩ := List.cons.inj heq
    exact hlatest
  · exact hrecords record earlier hsuffix

/-- Over every session the poller in place agrees with the saved position, and each record does only
what is lawful after the records before it. -/
theorem session_coherent {records : List Record} {current : Option Poller}
    (hsession : Session account records current saved) :
    (∀ poller, current = some poller → InStep account records poller saved) ∧
      ∀ record earlier, record :: earlier <:+ records → record.Lawful account earlier := by
  induction hsession with
  | fresh => exact ⟨nofun, by simp⟩
  | start rules hsession hreturns hcursor hload ih =>
    obtain ⟨hinStep, hlawful⟩ := start_inStep hreturns hcursor hload
    refine ⟨?_, lawful_of_suffix_cons hlawful ih.2⟩
    rintro _ ⟨⟩
    exact hinStep
  | tick hsession hreturns hcursor ih =>
    obtain ⟨hinStep, hlawful⟩ := tick_inStep (ih.1 _ rfl) hreturns hcursor
    refine ⟨?_, lawful_of_suffix_cons hlawful ih.2⟩
    rintro _ ⟨⟩
    exact hinStep

/-- A session that resumes a position, is told that it expired, and goes back to an earlier one. -/
theorem session_coherent_through_reset :
    ∃ resumed expired reset : Record,
      Session "a" [reset, expired, resumed] (some ⟨"a", [], .tracking 3⟩) (some 3) ∧
        reset.move = .tick (.reset 3) ∧ reset.savedBefore = some 5 ∧
        ExpiredSince "a" 5 [expired, resumed] ∧
        InStep "a" [reset, expired, resumed] ⟨"a", [], .tracking 3⟩ (some 3) ∧
        reset.Lawful "a" [expired, resumed] ∧ expired.Lawful "a" [resumed] ∧
        resumed.Lawful "a" [] := by
  let resumed : Record := ⟨.start, [⟨.loadCursor "a", .ok (some 5)⟩], .uninitialized, .tracking 5,
    some 5, some 5⟩
  let expired : Record := ⟨.tick .skipped, [⟨.historySince "a" 5, .error (.expired 5)⟩,
    ⟨.highWater "a", .error (.unauthorized "a")⟩], .tracking 5, .resetting, some 5, some 5⟩
  let reset : Record := ⟨.tick (.reset 3), [⟨.highWater "a", .ok 3⟩, ⟨.saveCursor "a" 3, .ok ()⟩],
    .resetting, .tracking 3, some 5, some 3⟩
  have hstart : (Poller.new "a" []).start.Returns resumed.trace ⟨"a", [], .tracking 5⟩ :=
    .answered _ (.stay _)
  have hskip : (Poller.mk "a" [] (.tracking 5)).tick.Returns expired.trace
      (.skipped, ⟨"a", [], .resetting⟩) := .answered _ (.answered _ (.stay _))
  have hjump : (Poller.mk "a" [] .resetting).tick.Returns reset.trace
      (.reset 3, ⟨"a", [], .tracking 3⟩) := .answered _ (.answered _ (.stay _))
  have hresumed : Session "a" [resumed] _ (some 5) :=
    .start [] (.fresh (some 5)) hstart (.cons (.loaded _) (.nil _)) (by simp [resumed])
  have hexpired : Session "a" [expired, resumed] _ (some 5) :=
    .tick hresumed hskip (.cons (.elsewhere _ (by nofun)) (.cons (.elsewhere _ (by nofun)) (.nil _)))
  have hreset : Session "a" [reset, expired, resumed] _ (some 3) :=
    .tick hexpired hjump (.cons (.elsewhere _ (by nofun)) (.cons (.replaced _ _) (.nil _)))
  obtain ⟨hinStep, hlawful⟩ := session_coherent hreset
  refine ⟨resumed, expired, reset, hreset, rfl, rfl, ?_, hinStep _ rfl, hlawful _ _ ?_, hlawful _ _ ?_,
    hlawful _ _ ?_⟩
  · exact ⟨rfl, .inl ⟨rfl, _, rfl, List.mem_cons_self ..⟩⟩
  · exact List.suffix_refl _
  · exact List.suffix_cons ..
  · exact (List.suffix_cons ..).trans (List.suffix_cons ..)

end EventRelay.Poller
