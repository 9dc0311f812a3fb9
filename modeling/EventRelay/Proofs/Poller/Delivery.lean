import Mathlib.Logic.Relation
import EventRelay.Proofs.Poller.World

namespace EventRelay.Poller

open Script

variable {account : String} {mailbox : MailLog} {saved saved' : Option UInt64}
  {trace : List (Sigma Effect.Answer)}

/-- What an answer goes on to tell about a mailbox, however the mailbox moves later. -/
structure Vouched (account : String) (mailbox : MailLog) (exchange : Sigma Effect.Answer) :
    Prop where
  highWater : ∀ position, exchange = ⟨.highWater account, .ok position⟩ →
    0 < position ∧ position ≤ mailbox.head
  history : ∀ position page, exchange = ⟨.historySince account position, .ok page⟩ →
    page.position ≤ mailbox.head ∧
      page.entries = mailbox.select fun other => position < other && other ≤ page.position
  unexpired : ∀ position error, exchange = ⟨.historySince account position, .error error⟩ →
    error.isExpired = false
  loaded : ∀ error, exchange ≠ ⟨.loadCursor account, .error error⟩

theorem Answers.vouched {exchange : Sigma Effect.Answer}
    (hanswers : Answers account mailbox exchange) : Vouched account mailbox exchange := by
  refine ⟨?_, ?_, hanswers.unexpired, hanswers.loaded⟩
  · intro position hexchange
    obtain rfl := hanswers.highWater position hexchange
    exact ⟨mailbox.head_pos, UInt64.le_refl _⟩
  · intro position page hexchange
    obtain rfl := hanswers.history position page hexchange
    exact ⟨UInt64.le_refl _, mailbox.entries_pageSince position⟩

theorem Vouched.advance {exchange : Sigma Effect.Answer}
    (hvouched : Vouched account mailbox exchange) {position : UInt64}
    {message? : Option MailMessage} (hposition : mailbox.head < position) :
    Vouched account (mailbox.advance position message? hposition) exchange := by
  refine ⟨?_, ?_, hvouched.unexpired, hvouched.loaded⟩
  · intro fetched hexchange
    obtain ⟨hpositive, hle⟩ := hvouched.highWater fetched hexchange
    exact ⟨hpositive, UInt64.le_trans hle (UInt64.le_of_lt hposition)⟩
  · intro tracked page hexchange
    obtain ⟨hle, hentries⟩ := hvouched.history tracked page hexchange
    refine ⟨UInt64.le_trans hle (UInt64.le_of_lt hposition), ?_⟩
    rw [hentries, MailLog.select_advance]
    have hlt := UInt64.lt_of_le_of_lt hle hposition
    simp [UInt64.not_le.2 hlt]

/-- A saved position is positive, and the mailbox has been there. -/
def Reached (mailbox : MailLog) (saved : Option UInt64) : Prop :=
  ∀ position, saved = some position → 0 < position ∧ position ≤ mailbox.head

theorem Reached.advance (hreached : Reached mailbox saved) {position : UInt64}
    {message? : Option MailMessage} (hposition : mailbox.head < position) :
    Reached (mailbox.advance position message? hposition) saved := by
  intro cursor hsaved
  obtain ⟨hpositive, hle⟩ := hreached cursor hsaved
  exact ⟨hpositive, UInt64.le_trans hle (UInt64.le_of_lt hposition)⟩

theorem Jump.reached {result : Option UInt64} (hjump : Jump account trace result)
    (hvouched : ∀ exchange ∈ trace, Vouched account mailbox exchange) :
    Reached mailbox result := by
  cases hjump with
  | unfetched | unsaved => exact nofun
  | saved position =>
    rintro _ ⟨⟩
    exact (hvouched _ (List.mem_cons_self ..)).highWater position rfl

/-- An idle poller agrees with what is saved. -/
structure Ready (account : String) (saved : Option UInt64) (poller : Poller) : Prop where
  account_eq : poller.account = account
  state_eq : poller.state = match saved with
    | some position => .tracking position
    | none => .uninitialized

/-- The start of a new poller, or a tick of a poller that agrees with what is saved. -/
inductive Begun (account : String) (saved : Option UInt64) : Poller → RelayM Poller → Prop
  | start (rules : List Rule) :
      Begun account saved (Poller.new account rules) (Poller.new account rules).start
  | tick {poller : Poller} (hready : Ready account saved poller) :
      Begun account saved poller (poller.tick.bind fun result => .done result.2)

theorem Begun.endsWith {poller : Poller} {script : RelayM Poller}
    (hbegun : Begun account saved poller script) : script.EndsWith Effect.IsSave := by
  cases hbegun with
  | start rules => exact start_endsWith _
  | tick => exact (tick_endsWith poller).bind_done fun result => ⟨result.2, rfl⟩

/-- An attempt has passed on all messages between two saved positions. -/
def Attempt.Covers (account : String) (mailbox : MailLog) (saved saved' : Option UInt64)
    (attempt : Attempt) : Prop :=
  ∀ old, saved = some old → ∃ cursor, saved' = some cursor ∧
    ∀ position message, (position, message) ∈ mailbox.arrived → old < position →
      position ≤ cursor → attempt.PassedOn account mailbox position message

theorem Attempt.covers_refl (attempt : Attempt) : attempt.Covers account mailbox saved saved := by
  intro old hold
  refine ⟨old, hold, fun position message _ hlt hle => ?_⟩
  exact absurd hlt (UInt64.not_lt.2 hle)

/-- A tick that processes covers all that the new position is past. -/
theorem Turn.covers {poller : Poller} {entries : Nat} {next : UInt64} {state : PollerState}
    (hturn : Turn poller trace (.processed entries next) state)
    (hready : Ready account saved poller) (hcursor : CursorRun account saved trace saved')
    (hvouched : ∀ exchange ∈ trace, Vouched account mailbox exchange) :
    (Attempt.mk poller trace).Covers account mailbox saved saved' := by
  obtain ⟨rfl, hagrees⟩ := hready
  obtain ⟨-, rfl, tracked, page, passed, hstate, -, hnext, htrace, hpassed⟩ :=
    hturn.of_processed hcursor
  intro old hold
  obtain rfl : old = tracked := by simpa [hold, hstate] using hagrees.symm
  obtain ⟨-, hentries⟩ := (hvouched _ (htrace ▸ List.mem_cons_self ..)).history old page rfl
  refine ⟨next, rfl, fun position message hmem hlower hupper => ?_⟩
  have hpage : position ≤ page.position := by
    rw [UInt64.le_iff_toNat_le] at hupper ⊢
    rw [UInt64.lt_iff_toNat_lt] at hlower
    rw [hnext, toNat_max] at hupper
    omega
  rw [hentries, mailbox.select_eq_append hmem hlower hpage] at hpassed
  obtain ⟨earlier, passage, later, outcome, rfl, hearlier, hpassage⟩ := processAll_returns hpassed
  refine ⟨old, page, earlier, passage, outcome, rfl, hstate, hlower, hearlier, hpassage, ?_⟩
  rw [htrace]
  refine ⟨later ++ [⟨.saveCursor poller.account next, .ok ()⟩], ?_⟩
  simp

theorem Begun.returns {poller after : Poller} {script : RelayM Poller}
    (hbegun : Begun account saved poller script) (hreturns : script.Returns trace after)
    (hcursor : CursorRun account saved trace saved') (hreached : Reached mailbox saved)
    (hvouched : ∀ exchange ∈ trace, Vouched account mailbox exchange) :
    Ready account saved' after ∧ Reached mailbox saved' ∧
      (Attempt.mk poller trace).Covers account mailbox saved saved' := by
  cases hbegun with
  | start rules =>
    obtain ⟨hstartup, hafter⟩ := start_returns rfl hreturns
    have haccount : after.account = account := by rw [hafter]; rfl
    obtain ⟨position, -, rfl, rfl, hstate, -⟩ | ⟨hzero, later, result, hjump, rfl, rfl, hstate⟩ :=
      hstartup.resumed_or_jumped hcursor fun error hmem => (hvouched _ hmem).loaded error rfl
    · exact ⟨⟨haccount, hstate⟩, hreached, Attempt.covers_refl _⟩
    · cases saved with
      | some position =>
        obtain rfl := hzero position rfl
        exact absurd (hreached 0 rfl).1 (UInt64.lt_irrefl 0)
      | none =>
        rw [Option.or_none]
        exact ⟨⟨haccount, hstate⟩,
          hjump.reached fun exchange hmem => hvouched exchange (List.mem_cons_of_mem _ hmem), nofun⟩
  | tick hready =>
    obtain ⟨first, ⟨outcome, result⟩, last, rfl, htick, hlast⟩ := returns_bind_iff.1 hreturns
    obtain ⟨rfl, rfl⟩ := returns_done_iff.1 hlast
    rw [List.append_nil] at *
    obtain ⟨hturn, hafter⟩ := tick_returns htick
    have hkept := hready
    obtain ⟨rfl, hagrees⟩ := hready
    have haccount : after.account = poller.account := by rw [hafter]
    have unexpired {position : UInt64} (hexpired : Expired poller.account position first) :
        False := by
      obtain ⟨error, hexpired, hmem⟩ := hexpired
      rw [(hvouched _ hmem).unexpired position error rfl] at hexpired
      cases hexpired
    -- Only a tick that found nothing saved may jump: all others would skip mail.
    cases outcome with
    | initialized next =>
      obtain ⟨hbefore, hstate, rfl, hjump⟩ := hturn.of_initialized hcursor
      refine ⟨⟨haccount, hstate⟩, hjump.reached hvouched, ?_⟩
      rintro old rfl
      simp [hbefore] at hagrees
    | processed entries next =>
      have hcovers := hturn.covers hkept hcursor hvouched
      obtain ⟨hstate, rfl, tracked, page, passed, hbefore, -, hnext, rfl, -⟩ :=
        hturn.of_processed hcursor
      refine ⟨⟨haccount, hstate⟩, ?_, hcovers⟩
      rintro _ ⟨⟩
      cases saved with
      | none => simp [hbefore] at hagrees
      | some old =>
        obtain rfl : tracked = old := by simpa [hbefore] using hagrees
        obtain ⟨hpositive, hold⟩ := hreached tracked rfl
        have hpage := ((hvouched _ (List.mem_cons_self ..)).history tracked page rfl).1
        rw [UInt64.lt_iff_toNat_lt] at hpositive ⊢
        rw [UInt64.le_iff_toNat_le] at hold hpage ⊢
        rw [hnext, toNat_max]
        omega
    | reset next =>
      obtain ⟨hbefore | ⟨old, -, hexpired⟩, -⟩ := hturn.of_reset hcursor
      · rw [hbefore] at hagrees
        cases saved <;> cases hagrees
      · exact (unexpired hexpired).elim
    | skipped =>
      obtain ⟨rfl, hstate | ⟨old, -, -, hexpired⟩⟩ := hturn.of_skipped hcursor
      · exact ⟨⟨haccount, hstate.trans hagrees⟩, hreached, Attempt.covers_refl _⟩
      · exact (unexpired hexpired).elim

/-- An attempt that was begun when `before` was saved, with `rest` still ahead of it. As long as there
is a question ahead, nothing has been saved. -/
structure InFlight (account : String) (mailbox : MailLog) (saved before : Option UInt64)
    (attempt : Attempt) (script rest : RelayM Poller) : Prop where
  begun : Begun account before attempt.poller script
  runs : script.Runs attempt.trace rest
  cursor : CursorRun account before attempt.trace saved
  reached : Reached mailbox before
  vouched : ∀ exchange ∈ attempt.trace, Vouched account mailbox exchange
  unsaved : saved = before ∨ ∃ after, rest = .done after

theorem InFlight.advance {before : Option UInt64} {attempt : Attempt}
    {script rest : RelayM Poller}
    (hflight : InFlight account mailbox saved before attempt script rest) {position : UInt64}
    {message? : Option MailMessage} (hposition : mailbox.head < position) :
    InFlight account (mailbox.advance position message? hposition) saved before attempt script
      rest := by
  obtain ⟨hbegun, hruns, hcursor, hreached, hvouched, hunsaved⟩ := hflight
  exact ⟨hbegun, hruns, hcursor, hreached.advance hposition,
    fun exchange hmem => (hvouched exchange hmem).advance hposition, hunsaved⟩

theorem InFlight.begin {poller : Poller} {script : RelayM Poller}
    (hbegun : Begun account saved poller script) (hreached : Reached mailbox saved) :
    InFlight account mailbox saved saved ⟨poller, []⟩ script script :=
  ⟨hbegun, .stay _, .nil _, hreached, by simp, .inl rfl⟩

/-- One answer keeps an attempt on its way. If it changes what is saved, then the attempt has passed
on everything between. -/
theorem InFlight.answer {before : Option UInt64} {poller : Poller} {question : Effect}
    {next : question.Answer → RelayM Poller} {script : RelayM Poller}
    (hflight : InFlight account mailbox saved before ⟨poller, trace⟩ script (.ask question next))
    (answer : question.Answer) (hanswers : Answers account mailbox ⟨question, answer⟩)
    (hstep : CursorStep account saved ⟨question, answer⟩ saved') :
    InFlight account mailbox saved' before ⟨poller, trace ++ [⟨question, answer⟩]⟩ script
        (next answer) ∧
      Reached mailbox saved' ∧
      (Attempt.mk poller (trace ++ [⟨question, answer⟩])).Covers account mailbox saved saved' := by
  obtain ⟨hbegun, hruns, hcursor, hreached, hvouched, hunsaved⟩ := hflight
  obtain rfl : saved = before := by simpa using hunsaved
  have hrun := hruns.concat answer
  have hcursor' := cursorRun_append_iff.2 ⟨saved, hcursor, cursorRun_singleton_iff.2 hstep⟩
  have hvouched' : ∀ exchange ∈ trace ++ [⟨question, answer⟩],
      Vouched account mailbox exchange := by
    intro exchange hmem
    obtain hmem | hmem := List.mem_append.1 hmem
    · exact hvouched exchange hmem
    · obtain rfl := List.mem_singleton.1 hmem
      exact hanswers.vouched
  by_cases hsave : question.IsSave
  -- A save is the last question, so the attempt ends here and its trace can be read as a whole.
  · obtain ⟨after, hafter⟩ := (hruns.endsWith hbegun.endsWith).2 hsave answer
    obtain ⟨-, hreached', hcovers⟩ :=
      hbegun.returns (hafter ▸ hrun) hcursor' hreached hvouched'
    exact ⟨⟨hbegun, hrun, hcursor', hreached, hvouched', .inr ⟨after, hafter⟩⟩, hreached', hcovers⟩
  · obtain rfl := hstep.eq_of_not_isSave hsave
    exact ⟨⟨hbegun, hrun, hcursor', hreached, hvouched', .inl rfl⟩, hreached,
      Attempt.covers_refl _⟩

/-- The invariant of the steps. -/
structure World.Sound (account : String) (world : World) : Prop where
  reached : Reached world.mailbox world.saved
  idle : ∀ poller, world.activity = .idle poller → Ready account world.saved poller
  busy : ∀ rest, world.activity = .busy rest → ∃ attempt earlier before script,
    world.attempts = attempt :: earlier ∧
      InFlight account world.mailbox world.saved before attempt script rest

theorem Step.sound {world world' : World} (hstep : Step account world world')
    (hsound : world.Sound account) : world'.Sound account := by
  obtain ⟨hreached, hidle, hbusy⟩ := hsound
  cases hstep with
  | advance position message? hposition =>
    refine ⟨hreached.advance hposition, hidle, fun rest hrest => ?_⟩
    obtain ⟨attempt, earlier, before, script, hattempts, hflight⟩ := hbusy rest hrest
    exact ⟨attempt, earlier, before, script, hattempts, hflight.advance hposition⟩
  | start rules =>
    refine ⟨hreached, nofun, ?_⟩
    rintro rest ⟨⟩
    exact ⟨_, _, _, _, rfl, .begin (.start rules) hreached⟩
  | tick poller =>
    refine ⟨hreached, nofun, ?_⟩
    rintro rest ⟨⟩
    exact ⟨_, _, _, _, rfl, .begin (.tick (hidle poller rfl)) hreached⟩
  | answer answer hanswers hcursor =>
    obtain ⟨attempt, earlier, before, script, hattempts, hflight⟩ := hbusy _ rfl
    obtain ⟨rfl, rfl⟩ := List.cons.inj hattempts
    obtain ⟨hflight, hreached, -⟩ := hflight.answer answer hanswers hcursor
    refine ⟨hreached, nofun, ?_⟩
    rintro rest ⟨⟩
    exact ⟨_, _, _, _, rfl, hflight⟩
  | finish poller =>
    refine ⟨hreached, ?_, nofun⟩
    rintro _ ⟨⟩
    obtain ⟨attempt, earlier, before, script, -, hflight⟩ := hbusy _ rfl
    exact (hflight.begun.returns hflight.runs hflight.cursor hflight.reached hflight.vouched).1
  | crash => exact ⟨hreached, nofun, nofun⟩

theorem Attempt.PassedOn.advance {attempt : Attempt} {position : UInt64} {message : MailMessage}
    (hpassed : attempt.PassedOn account mailbox position message) (hle : position ≤ mailbox.head)
    {next : UInt64} {message? : Option MailMessage} (hnext : mailbox.head < next) :
    attempt.PassedOn account (mailbox.advance next message? hnext) position message := by
  obtain ⟨tracked, page, earlier, passage, outcome, haccount, hstate, hlower, hearlier, hrest⟩ :=
    hpassed
  refine ⟨tracked, page, earlier, passage, outcome, haccount, hstate, hlower, ?_, hrest⟩
  rw [MailLog.select_advance]
  · exact hearlier
  · have hlt := UInt64.le_of_lt (UInt64.lt_of_le_of_lt hle hnext)
    simp [UInt64.not_lt.2 hlt]

theorem Attempt.PassedOn.concat {poller : Poller} {exchange : Sigma Effect.Answer}
    {position : UInt64} {message : MailMessage}
    (hpassed : (Attempt.mk poller trace).PassedOn account mailbox position message) :
    (Attempt.mk poller (trace ++ [exchange])).PassedOn account mailbox position message := by
  obtain ⟨tracked, page, earlier, passage, outcome, haccount, hstate, hlower, hearlier, hpassage,
    hprefix⟩ := hpassed
  exact ⟨tracked, page, earlier, passage, outcome, haccount, hstate, hlower, hearlier, hpassage,
    hprefix.trans (List.prefix_append ..)⟩

/-- What has been passed on stays passed on. -/
theorem Step.passedOn {world world' : World} (hstep : Step account world world')
    {position : UInt64} {message : MailMessage} (hle : position ≤ world.mailbox.head)
    (hpassed : world.PassedOn account position message) :
    world'.PassedOn account position message := by
  obtain ⟨attempt, hmem, hattempt⟩ := hpassed
  cases hstep with
  | advance next message? hnext => exact ⟨attempt, hmem, hattempt.advance hle hnext⟩
  | start | tick => exact ⟨attempt, List.mem_cons_of_mem _ hmem, hattempt⟩
  | finish | crash => exact ⟨attempt, hmem, hattempt⟩
  | answer answer hanswers hcursor =>
    obtain rfl | hmem := List.mem_cons.1 hmem
    · exact ⟨_, List.mem_cons_self .., hattempt.concat⟩
    · exact ⟨attempt, List.mem_cons_of_mem _ hmem, hattempt⟩

/-- Everything after a position that the saved one is past has been passed on. -/
def World.Delivered (account : String) (base : UInt64) (world : World) : Prop :=
  ∃ cursor, world.saved = some cursor ∧
    ∀ position message, (position, message) ∈ world.mailbox.arrived → base < position →
      position ≤ cursor → world.PassedOn account position message

theorem Step.delivered {world world' : World} (hstep : Step account world world')
    (hsound : world.Sound account) {base : UInt64} (hdelivered : world.Delivered account base) :
    world'.Delivered account base := by
  obtain ⟨cursor, hsaved, hdelivered⟩ := hdelivered
  have kept {position : UInt64} {message : MailMessage}
      (hmem : (position, message) ∈ world.mailbox.arrived) (hbase : base < position)
      (hle : position ≤ cursor) : world'.PassedOn account position message :=
    hstep.passedOn (world.mailbox.le_head _ hmem) (hdelivered position message hmem hbase hle)
  obtain ⟨hreached, -, hbusy⟩ := hsound
  cases hstep with
  | advance next message? hnext =>
    refine ⟨cursor, hsaved, fun position message hmem hbase hle => ?_⟩
    obtain hmem | ⟨message, -, heq⟩ := (MailLog.mem_advance hnext).1 hmem
    · exact kept hmem hbase hle
    · obtain ⟨rfl, rfl⟩ := Prod.mk.inj heq
      have hlt := UInt64.lt_of_le_of_lt (hreached cursor hsaved).2 hnext
      exact absurd hle (UInt64.not_le.2 hlt)
  | start | tick | finish | crash =>
    exact ⟨cursor, hsaved, fun position message hmem hbase hle => kept hmem hbase hle⟩
  | answer answer hanswers hcursor =>
    obtain ⟨attempt, earlier, before, script, hattempts, hflight⟩ := hbusy _ rfl
    obtain ⟨rfl, rfl⟩ := List.cons.inj hattempts
    obtain ⟨-, -, hcovers⟩ := hflight.answer answer hanswers hcursor
    obtain ⟨cursor', hsaved', hcovers⟩ := hcovers cursor hsaved
    refine ⟨cursor', hsaved', fun position message hmem hbase hle => ?_⟩
    -- Past the old position, it is the attempt that has just saved which passed the message on.
    by_cases hold : position ≤ cursor
    · exact kept hmem hbase hold
    · exact ⟨_, List.mem_cons_self .., hcovers position message hmem (UInt64.not_le.1 hold) hle⟩

/-- One world comes after another, by steps in any order. -/
abbrev Reaches (account : String) : World → World → Prop :=
  Relation.ReflTransGen (Step account)

/-- A world in which nothing has been saved yet and the relay is down. -/
def World.fresh (mailbox : MailLog) : World :=
  ⟨mailbox, none, .down, []⟩

theorem Reaches.sound {world world' : World} (hreaches : Reaches account world world')
    (hsound : world.Sound account) : world'.Sound account := by
  induction hreaches with
  | refl => exact hsound
  | tail _ hstep ih => exact hstep.sound ih

theorem Reaches.delivered {world world' : World} (hreaches : Reaches account world world')
    (hsound : world.Sound account) {base : UInt64} (hdelivered : world.Delivered account base) :
    world'.Delivered account base := by
  induction hreaches with
  | refl => exact hdelivered
  | tail hbefore hstep ih => exact hstep.delivered (Reaches.sound hbefore hsound) ih

theorem Step.mem_arrived {world world' : World} (hstep : Step account world world')
    {entry : UInt64 × MailMessage} (hmem : entry ∈ world.mailbox.arrived) :
    entry ∈ world'.mailbox.arrived := by
  cases hstep with
  | advance position message? hposition => exact (MailLog.mem_advance hposition).2 (.inl hmem)
  | start | tick | answer | finish | crash => exact hmem

theorem Reaches.mem_arrived {world world' : World} (hreaches : Reaches account world world')
    {entry : UInt64 × MailMessage} (hmem : entry ∈ world.mailbox.arrived) :
    entry ∈ world'.mailbox.arrived := by
  induction hreaches with
  | refl => exact hmem
  | tail _ hstep ih => exact hstep.mem_arrived ih

/-- A busy poller goes through every run of its script that the surroundings can answer. -/
theorem reaches_of_runs {script rest : RelayM Poller} (hruns : script.Runs trace rest)
    (hanswers : ∀ exchange ∈ trace, Answers account mailbox exchange)
    (hcursor : CursorRun account saved trace saved') (poller : Poller) (attempts : List Attempt)
    (before : List (Sigma Effect.Answer)) :
    Reaches account ⟨mailbox, saved, .busy script, ⟨poller, before⟩ :: attempts⟩
      ⟨mailbox, saved', .busy rest, ⟨poller, before ++ trace⟩ :: attempts⟩ := by
  induction hruns generalizing saved before with
  | stay =>
    obtain rfl := cursorRun_nil_iff.1 hcursor
    rw [List.append_nil]
  | @answered question next trace rest answer _ ih =>
    obtain ⟨middle, hstep, hcursor⟩ := cursorRun_cons_iff.1 hcursor
    have hlater := ih (fun exchange hmem => hanswers exchange (List.mem_cons_of_mem _ hmem))
      hcursor (before ++ [⟨question, answer⟩])
    rw [List.append_assoc, List.singleton_append] at hlater
    exact .head (.answer answer (hanswers _ (List.mem_cons_self ..)) hstep) hlater

theorem reaches_of_start_returns {rules : List Rule} {poller : Poller}
    (hreturns : (Poller.new account rules).start.Returns trace poller)
    (hanswers : ∀ exchange ∈ trace, Answers account mailbox exchange)
    (hcursor : CursorRun account saved trace saved') (attempts : List Attempt) :
    Reaches account ⟨mailbox, saved, .down, attempts⟩
      ⟨mailbox, saved', .idle poller, ⟨Poller.new account rules, trace⟩ :: attempts⟩ := by
  have hanswered :=
    reaches_of_runs hreturns hanswers hcursor (Poller.new account rules) attempts []
  exact (Relation.ReflTransGen.head (.start rules) hanswered).tail (.finish poller)

theorem reaches_of_tick_returns {poller after : Poller} {outcome : TickOutcome}
    (hreturns : poller.tick.Returns trace (outcome, after))
    (hanswers : ∀ exchange ∈ trace, Answers account mailbox exchange)
    (hcursor : CursorRun account saved trace saved') (attempts : List Attempt) :
    Reaches account ⟨mailbox, saved, .idle poller, attempts⟩
      ⟨mailbox, saved', .idle after, ⟨poller, trace⟩ :: attempts⟩ := by
  have hanswered := reaches_of_runs (hreturns.bind fun result => .done result.2) hanswers hcursor
    poller attempts []
  exact (Relation.ReflTransGen.head (.tick poller) hanswered).tail (.finish after)

/-- No mail is lost. Once a position is saved, every message that arrives is passed on to the pipeline
before the saved position is past it, in whatever order mail arrives, starts and ticks are answered
or fail, and the relay goes down and comes back. -/
theorem passedOn_of_le_saved {account : String} {mailbox : MailLog} {persisted later : World}
    (hpersisted : Reaches account (.fresh mailbox) persisted) {first : UInt64}
    (hfirst : persisted.saved = some first) {position : UInt64} {message : MailMessage}
    (harrives : persisted.mailbox.head < position)
    (hlater : Reaches account
      { persisted with mailbox := persisted.mailbox.advance position (some message) harrives } later)
    {cursor : UInt64} (hsaved : later.saved = some cursor) (hle : position ≤ cursor) :
    later.PassedOn account position message := by
  have hfresh : (World.fresh mailbox).Sound account := ⟨nofun, nofun, nofun⟩
  have hsound := hpersisted.sound hfresh
  have harrival : Step account persisted
      { persisted with mailbox := persisted.mailbox.advance position (some message) harrives } :=
    .advance position (some message) harrives
  have hdelivered : persisted.Delivered account first := by
    refine ⟨first, hfirst, fun position message _ hlt hle => ?_⟩
    exact absurd hlt (UInt64.not_lt.2 hle)
  obtain ⟨cursor', hsaved', hpassed⟩ := Reaches.delivered hlater (harrival.sound hsound)
    (harrival.delivered hsound hdelivered)
  obtain rfl : cursor' = cursor := by simpa [hsaved] using hsaved'.symm
  have hmem : (position, message) ∈ later.mailbox.arrived :=
    hlater.mem_arrived ((MailLog.mem_advance harrives).2 (.inr ⟨message, rfl, rfl⟩))
  have hbase := UInt64.lt_of_le_of_lt (hsound.reached first hfirst).2 harrives
  exact hpassed position message hmem hbase hle

/-- A message that arrives after the first start, in a mailbox that was empty. -/
theorem passedOn_of_le_saved_after_first_start :
    ∃ (mailbox : MailLog) (persisted later : World) (harrives : persisted.mailbox.head < 2),
      Reaches "a" (.fresh mailbox) persisted ∧ persisted.saved = some 1 ∧
      Reaches "a" { persisted with
        mailbox := persisted.mailbox.advance 2 (some ⟨"m", "t", [], "", "", ""⟩) harrives } later ∧
      later.saved = some 2 ∧ later.PassedOn "a" 2 ⟨"m", "t", [], "", "", ""⟩ := by
  let empty : MailLog := ⟨[], 1, by decide, .nil, nofun⟩
  let message : MailMessage := ⟨"m", "t", [], "", "", ""⟩
  have harrives : empty.head < 2 := by decide
  let mailbox := empty.advance 2 (some message) harrives
  let first : List (Sigma Effect.Answer) := [⟨.loadCursor "a", .ok none⟩,
    ⟨.highWater "a", .ok 1⟩, ⟨.saveCursor "a" 1, .ok ()⟩]
  let second : List (Sigma Effect.Answer) := [⟨.historySince "a" 1, .ok (mailbox.pageSince 1)⟩,
    ⟨.now, (0 : Nat)⟩, ⟨.allow (message.toEvent "a").dedupKey 0, true⟩,
    ⟨.saveCursor "a" 2, .ok ()⟩]
  have hstart : (Poller.new "a" []).start.Returns first ⟨"a", [], .tracking 1⟩ :=
    .answered _ (.answered _ (.answered _ (.stay _)))
  have htick : (Poller.mk "a" [] (.tracking 1)).tick.Returns second
      (.processed 1 2, ⟨"a", [], .tracking 2⟩) :=
    .answered _ (.answered _ (.answered _ (.answered _ (.stay _))))
  have hfirst : ∀ exchange ∈ first, Answers "a" empty exchange := by
    intro exchange hmem
    simp only [first, List.mem_cons, List.not_mem_nil, or_false] at hmem
    obtain rfl | rfl | rfl := hmem <;> constructor <;> simp [empty]
  have hsecond : ∀ exchange ∈ second, Answers "a" mailbox exchange := by
    intro exchange hmem
    simp only [second, List.mem_cons, List.not_mem_nil, or_false] at hmem
    obtain rfl | rfl | rfl | rfl := hmem <;> constructor <;> simp
  have hsaveFirst : CursorRun "a" none first (some 1) := by
    refine .cons (.loaded _) (.cons (.elsewhere _ ?_) (.cons (.replaced _ _) (.nil _)))
    exact id
  have hsaveSecond : CursorRun "a" (some 1) second (some 2) := by
    refine .cons (.elsewhere _ ?_) (.cons (.elsewhere _ ?_) (.cons (.elsewhere _ ?_)
      (.cons (.replaced _ _) (.nil _))))
    all_goals exact id
  have hpersisted := reaches_of_start_returns hstart hfirst hsaveFirst []
  have hlater := reaches_of_tick_returns htick hsecond hsaveSecond [⟨Poller.new "a" [], first⟩]
  exact ⟨empty, _, _, harrives, hpersisted, rfl, hlater, rfl,
    passedOn_of_le_saved hpersisted rfl harrives hlater rfl (UInt64.le_refl 2)⟩

end EventRelay.Poller
