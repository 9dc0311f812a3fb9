import EventRelay.Proofs.Poller.Trace

namespace EventRelay

open Script

/-- Questions about the saved position of an account. -/
def Effect.IsCursorOf (account : String) : Effect → Prop
  | loadCursor other | saveCursor other _ => other = account
  | _ => False

/-- What one exchange means for the saved position of an account. A load that succeeds reports it, a
save that succeeds replaces it, and a save that fails leaves it as it was. -/
inductive CursorStep (account : String) :
    Option UInt64 → Sigma Effect.Answer → Option UInt64 → Prop
  | loaded (saved : Option UInt64) : CursorStep account saved ⟨.loadCursor account, .ok saved⟩ saved
  | unreadable (saved : Option UInt64) (error : CursorError) :
      CursorStep account saved ⟨.loadCursor account, .error error⟩ saved
  | replaced (saved : Option UInt64) (position : UInt64) :
      CursorStep account saved ⟨.saveCursor account position, .ok ()⟩ (some position)
  | refused (saved : Option UInt64) (position : UInt64) (error : CursorError) :
      CursorStep account saved ⟨.saveCursor account position, .error error⟩ saved
  | elsewhere (saved : Option UInt64) {exchange : Sigma Effect.Answer}
      (helsewhere : ¬ exchange.1.IsCursorOf account) : CursorStep account saved exchange saved

/-- What a trace means for the saved position of an account, which nothing else changes. -/
inductive CursorRun (account : String) :
    Option UInt64 → List (Sigma Effect.Answer) → Option UInt64 → Prop
  | nil (saved : Option UInt64) : CursorRun account saved [] saved
  | cons {saved middle saved' : Option UInt64} {exchange : Sigma Effect.Answer}
      {trace : List (Sigma Effect.Answer)} (hstep : CursorStep account saved exchange middle)
      (hrun : CursorRun account middle trace saved') :
      CursorRun account saved (exchange :: trace) saved'

variable {account : String} {saved saved' : Option UInt64}

theorem CursorStep.eq_of_elsewhere {exchange : Sigma Effect.Answer}
    (hstep : CursorStep account saved exchange saved')
    (helsewhere : ¬ exchange.1.IsCursorOf account) : saved' = saved := by
  cases hstep with
  | loaded | unreadable | refused | elsewhere => rfl
  | replaced => exact absurd rfl helsewhere

theorem CursorStep.eq_of_not_isSave {exchange : Sigma Effect.Answer}
    (hstep : CursorStep account saved exchange saved') (hsave : ¬ exchange.1.IsSave) :
    saved' = saved := by
  cases hstep with
  | loaded | unreadable | refused | elsewhere => rfl
  | replaced => exact absurd trivial hsave

theorem cursorStep_load_iff {answer : Except CursorError (Option UInt64)} :
    CursorStep account saved ⟨.loadCursor account, answer⟩ saved' ↔
      saved' = saved ∧ ∀ loaded, answer = .ok loaded → loaded = saved := by
  constructor
  · intro hstep
    cases hstep with
    | loaded => exact ⟨rfl, by rintro _ ⟨⟩; rfl⟩
    | unreadable => exact ⟨rfl, by rintro _ ⟨⟩⟩
    | elsewhere helsewhere => exact absurd rfl helsewhere
  · rintro ⟨rfl, hloaded⟩
    cases answer with
    | error error => exact .unreadable _ error
    | ok loaded =>
      obtain rfl := hloaded loaded rfl
      exact .loaded _

theorem cursorStep_save_iff {position : UInt64} {answer : Except CursorError Unit} :
    CursorStep account saved ⟨.saveCursor account position, answer⟩ saved' ↔
      saved' = match answer with
        | .ok () => some position
        | .error _ => saved := by
  constructor
  · intro hstep
    cases hstep with
    | replaced | refused => rfl
    | elsewhere helsewhere => exact absurd rfl helsewhere
  · rintro rfl
    cases answer with
    | error error => exact .refused _ _ error
    | ok success => exact .replaced _ _

@[simp] theorem cursorRun_nil_iff : CursorRun account saved [] saved' ↔ saved' = saved := by
  constructor
  · intro hrun
    cases hrun
    rfl
  · rintro rfl
    exact .nil _

theorem cursorRun_cons_iff {exchange : Sigma Effect.Answer} {trace : List (Sigma Effect.Answer)} :
    CursorRun account saved (exchange :: trace) saved' ↔
      ∃ middle, CursorStep account saved exchange middle ∧ CursorRun account middle trace saved' := by
  constructor
  · intro hrun
    cases hrun with
    | cons hstep hrun => exact ⟨_, hstep, hrun⟩
  · rintro ⟨middle, hstep, hrun⟩
    exact .cons hstep hrun

theorem cursorRun_append_iff {first second : List (Sigma Effect.Answer)} :
    CursorRun account saved (first ++ second) saved' ↔
      ∃ middle, CursorRun account saved first middle ∧ CursorRun account middle second saved' := by
  induction first generalizing saved with
  | nil => simp
  | cons exchange rest ih =>
    rw [List.cons_append, cursorRun_cons_iff]
    constructor
    · rintro ⟨next, hstep, hrun⟩
      obtain ⟨middle, hfirst, hsecond⟩ := ih.1 hrun
      exact ⟨middle, .cons hstep hfirst, hsecond⟩
    · rintro ⟨middle, hfirst, hsecond⟩
      obtain ⟨next, hstep, hrun⟩ := cursorRun_cons_iff.1 hfirst
      exact ⟨next, hstep, ih.2 ⟨middle, hrun, hsecond⟩⟩

@[simp] theorem cursorRun_singleton_iff {exchange : Sigma Effect.Answer} :
    CursorRun account saved [exchange] saved' ↔ CursorStep account saved exchange saved' := by
  simp [cursorRun_cons_iff]

theorem CursorRun.eq_of_elsewhere {trace : List (Sigma Effect.Answer)}
    (hrun : CursorRun account saved trace saved')
    (helsewhere : ∀ exchange ∈ trace, ¬ exchange.1.IsCursorOf account) : saved' = saved := by
  induction hrun with
  | nil => rfl
  | cons hstep _ ih =>
    have hmiddle := hstep.eq_of_elsewhere (helsewhere _ (List.mem_cons_self ..))
    rw [ih fun exchange hmem => helsewhere exchange (List.mem_cons_of_mem _ hmem), hmiddle]

/-- The pipeline leaves the saved positions alone. -/
theorem Effect.IsPipeline.not_isCursorOf {effect : Effect} (hpipeline : effect.IsPipeline) :
    ¬ effect.IsCursorOf account := by
  cases effect <;> simp_all [Effect.IsPipeline, Effect.IsCursorOf]

namespace Poller

@[simp] theorem toNat_max (first second : UInt64) :
    (max first second).toNat = max first.toNat second.toNat := by
  change (if first ≤ second then second else first).toNat = _
  split <;> rename_i hle <;> rw [UInt64.le_iff_toNat_le] at hle <;> omega

theorem processAll_saved {poller : Poller} {messages : List MailMessage}
    {trace : List (Sigma Effect.Answer)} (hreturns : (poller.processAll messages).Returns trace ())
    (hrun : CursorRun account saved trace saved') : saved' = saved :=
  hrun.eq_of_elsewhere fun exchange hmem =>
    ((hreturns.asksOnly (poller.processAll_asksOnly messages)).1 exchange hmem).not_isCursorOf

/-- A jump saves the position that it comes to, or nothing. -/
theorem Jump.saved_eq {trace : List (Sigma Effect.Answer)} {result : Option UInt64}
    (hjump : Jump account trace result) (hrun : CursorRun account saved trace saved') :
    saved' = result.or saved := by
  cases hjump with
  | unfetched error =>
    exact (cursorRun_singleton_iff.1 hrun).eq_of_elsewhere id
  | unsaved position error =>
    obtain ⟨middle, hfetch, hsave⟩ := cursorRun_cons_iff.1 hrun
    obtain rfl := hfetch.eq_of_elsewhere id
    simpa [cursorStep_save_iff] using hsave
  | saved position =>
    obtain ⟨middle, -, hsave⟩ := cursorRun_cons_iff.1 hrun
    simpa [cursorStep_save_iff] using hsave

theorem Jump.not_isPipeline {trace : List (Sigma Effect.Answer)} {result : Option UInt64}
    (hjump : Jump account trace result) {exchange : Sigma Effect.Answer} (hmem : exchange ∈ trace) :
    ¬ exchange.1.IsPipeline := by
  cases hjump <;> simp only [List.mem_cons, List.not_mem_nil, or_false] at hmem
  · subst hmem
    exact id
  all_goals
    obtain rfl | rfl := hmem <;> exact id

/-- The mailbox has answered in a trace that it does not know its history back to a position any
more. -/
def Expired (account : String) (position : UInt64) (trace : List (Sigma Effect.Answer)) : Prop :=
  ∃ error : HistoryError, error.isExpired = true ∧
    ⟨.historySince account position, .error error⟩ ∈ trace

/-- A start whose load succeeds either resumes the saved position and asks for nothing else, or finds
no usable position and jumps. -/
theorem Startup.resumed_or_jumped {trace : List (Sigma Effect.Answer)} {state : PollerState}
    (hstartup : Startup account trace state)
    (hcursor : CursorRun account saved trace saved')
    (hload : ∀ error, ⟨.loadCursor account, .error error⟩ ∉ trace) :
    (∃ position, 0 < position ∧ saved = some position ∧ saved' = some position ∧
      state = .tracking position ∧ trace = [⟨.loadCursor account, .ok (some position)⟩]) ∨
    ((∀ position, saved = some position → position = 0) ∧
      ∃ later result, Jump account later result ∧ trace = ⟨.loadCursor account, .ok saved⟩ :: later ∧
        saved' = result.or saved ∧ state = match result with
          | some position => .tracking position
          | none => .uninitialized) := by
  have jumped {answer : Except CursorError (Option UInt64)} {later : List (Sigma Effect.Answer)}
      {result : Option UInt64} (hunusable : ∀ position, answer = .ok (some position) → position = 0)
      (hjump : Jump account later result)
      (hcursor : CursorRun account saved (⟨.loadCursor account, answer⟩ :: later) saved')
      (hload : ∀ error, ⟨.loadCursor account, .error error⟩ ∉
        (⟨.loadCursor account, answer⟩ :: later : List (Sigma Effect.Answer))) :
      answer = .ok saved ∧ (∀ position, saved = some position → position = 0) ∧
        saved' = result.or saved := by
    obtain ⟨middle, hstep, hrun⟩ := cursorRun_cons_iff.1 hcursor
    obtain ⟨rfl, hloaded⟩ := cursorStep_load_iff.1 hstep
    cases answer with
    | error error => exact absurd (List.mem_cons_self ..) (hload error)
    | ok loaded =>
      obtain rfl := hloaded loaded rfl
      refine ⟨rfl, ?_, hjump.saved_eq hrun⟩
      rintro position rfl
      exact hunusable position rfl
  cases hstartup with
  | resumed position hpositive =>
    obtain ⟨rfl, hloaded⟩ := cursorStep_load_iff.1 (cursorRun_singleton_iff.1 hcursor)
    obtain rfl := hloaded _ rfl
    exact .inl ⟨position, hpositive, rfl, rfl, rfl, rfl⟩
  | jumped answer hunusable hjump =>
    obtain ⟨rfl, hzero, hsaved⟩ := jumped hunusable hjump hcursor hload
    exact .inr ⟨hzero, _, _, hjump, rfl, hsaved, rfl⟩
  | failed answer hunusable hjump =>
    obtain ⟨rfl, hzero, hsaved⟩ := jumped hunusable hjump hcursor hload
    exact .inr ⟨hzero, _, _, hjump, rfl, hsaved, rfl⟩

section Turn

variable {trace : List (Sigma Effect.Answer)} {poller : Poller} {state : PollerState}

theorem Turn.of_initialized {position : UInt64}
    (hturn : Turn poller trace (.initialized position) state)
    (hcursor : CursorRun poller.account saved trace saved') :
    poller.state = .uninitialized ∧ state = .tracking position ∧ saved' = some position ∧
      Jump poller.account trace (some position) := by
  cases hturn with
  | established hstate hjump => exact ⟨hstate, rfl, hjump.saved_eq hcursor, hjump⟩

/-- A tick that resets either was waiting for the current position already, or has just been told that
its own position expired. -/
theorem Turn.of_reset {position : UInt64} (hturn : Turn poller trace (.reset position) state)
    (hcursor : CursorRun poller.account saved trace saved') :
    (poller.state = .resetting ∨
      ∃ old, poller.state = .tracking old ∧ Expired poller.account old trace) ∧
      state = .tracking position ∧ saved' = some position ∧
      ∀ exchange ∈ trace, ¬ exchange.1.IsPipeline := by
  cases hturn with
  | reset hstate hjump =>
    exact ⟨.inl hstate, rfl, hjump.saved_eq hcursor,
      fun exchange hmem => hjump.not_isPipeline hmem⟩
  | expiredReset hstate hexpired hjump =>
    obtain ⟨middle, -, hrun⟩ := cursorRun_cons_iff.1 hcursor
    refine ⟨.inr ⟨_, hstate, _, hexpired, List.mem_cons_self ..⟩, rfl, hjump.saved_eq hrun, ?_⟩
    intro exchange hmem
    obtain rfl | hmem := List.mem_cons.1 hmem
    · exact id
    · exact hjump.not_isPipeline hmem

/-- A tick that processes asks for the history once, at its own position, and the last thing it does is
to save a position that is not before it. -/
theorem Turn.of_processed {entries : Nat} {position : UInt64}
    (hturn : Turn poller trace (.processed entries position) state)
    (hcursor : CursorRun poller.account saved trace saved') :
    state = .tracking position ∧ saved' = some position ∧ ∃ old page passed,
      poller.state = .tracking old ∧ entries = page.entries.length ∧
      position = max page.position old ∧
      trace = ⟨.historySince poller.account old, .ok page⟩ ::
        (passed ++ [⟨.saveCursor poller.account position, .ok ()⟩]) ∧
      (poller.processAll page.entries).Returns passed () := by
  cases hturn with
  | @processed old page passed hstate hpassed =>
    obtain ⟨middle, -, hrun⟩ := cursorRun_cons_iff.1 hcursor
    obtain ⟨middle, -, hsave⟩ := cursorRun_append_iff.1 hrun
    have hsaved := cursorStep_save_iff.1 (cursorRun_singleton_iff.1 hsave)
    exact ⟨rfl, hsaved, old, page, passed, hstate, rfl, rfl, rfl, hpassed⟩

theorem Turn.of_skipped (hturn : Turn poller trace .skipped state)
    (hcursor : CursorRun poller.account saved trace saved') :
    saved' = saved ∧ (state = poller.state ∨
      ∃ old, poller.state = .tracking old ∧ state = .resetting ∧
        Expired poller.account old trace) := by
  cases hturn with
  | unestablished hstate hjump => exact ⟨hjump.saved_eq hcursor, .inl hstate.symm⟩
  | stillResetting hstate hjump => exact ⟨hjump.saved_eq hcursor, .inl hstate.symm⟩
  | unfetched hstate hkept =>
    exact ⟨(cursorRun_singleton_iff.1 hcursor).eq_of_elsewhere id, .inl hstate.symm⟩
  | expired hstate hexpired hjump =>
    obtain ⟨middle, hfetch, hrun⟩ := cursorRun_cons_iff.1 hcursor
    obtain rfl := hfetch.eq_of_elsewhere id
    exact ⟨hjump.saved_eq hrun, .inr ⟨_, hstate, rfl, _, hexpired, List.mem_cons_self ..⟩⟩
  | unsaved hstate hpassed =>
    obtain ⟨middle, hfetch, hrun⟩ := cursorRun_cons_iff.1 hcursor
    obtain rfl := hfetch.eq_of_elsewhere id
    obtain ⟨next, hpass, hsave⟩ := cursorRun_append_iff.1 hrun
    obtain rfl := processAll_saved hpassed hpass
    exact ⟨cursorStep_save_iff.1 (cursorRun_singleton_iff.1 hsave), .inl hstate.symm⟩

end Turn

end Poller

end EventRelay
