import EventRelay.Mailbox.Poller
import EventRelay.Proofs.Pipeline.Trace

namespace EventRelay

/-- Saves of a position, for whatever account. -/
def Effect.IsSave : Effect → Prop
  | saveCursor _ _ => True
  | _ => False

namespace Poller

open Script

/-- What a jump to the current position of a mailbox can come to: the position is fetched and then
saved, and each of the two may fail. -/
inductive Jump (account : String) : List (Sigma Effect.Answer) → Option UInt64 → Prop
  | unfetched (error : HistoryError) : Jump account [⟨.highWater account, .error error⟩] none
  | unsaved (position : UInt64) (error : CursorError) :
      Jump account [⟨.highWater account, .ok position⟩,
        ⟨.saveCursor account position, .error error⟩] none
  | saved (position : UInt64) :
      Jump account [⟨.highWater account, .ok position⟩, ⟨.saveCursor account position, .ok ()⟩]
        (some position)

/-- What a start can come to, with the state that it leaves. A position is taken up only if it is
readable and positive. -/
inductive Startup (account : String) : List (Sigma Effect.Answer) → PollerState → Prop
  | resumed (position : UInt64) (hpositive : 0 < position) :
      Startup account [⟨.loadCursor account, .ok (some position)⟩] (.tracking position)
  | jumped (answer : Except CursorError (Option UInt64))
      (hunusable : ∀ position, answer = .ok (some position) → position = 0)
      {trace : List (Sigma Effect.Answer)} {position : UInt64}
      (hjump : Jump account trace (some position)) :
      Startup account (⟨.loadCursor account, answer⟩ :: trace) (.tracking position)
  | failed (answer : Except CursorError (Option UInt64))
      (hunusable : ∀ position, answer = .ok (some position) → position = 0)
      {trace : List (Sigma Effect.Answer)} (hjump : Jump account trace none) :
      Startup account (⟨.loadCursor account, answer⟩ :: trace) .uninitialized

/-- What a tick can come to, with the state that it leaves. -/
inductive Turn (poller : Poller) : List (Sigma Effect.Answer) → TickOutcome → PollerState → Prop
  | established {trace : List (Sigma Effect.Answer)} {position : UInt64}
      (hstate : poller.state = .uninitialized) (hjump : Jump poller.account trace (some position)) :
      Turn poller trace (.initialized position) (.tracking position)
  | unestablished {trace : List (Sigma Effect.Answer)}
      (hstate : poller.state = .uninitialized) (hjump : Jump poller.account trace none) :
      Turn poller trace .skipped .uninitialized
  | reset {trace : List (Sigma Effect.Answer)} {position : UInt64}
      (hstate : poller.state = .resetting) (hjump : Jump poller.account trace (some position)) :
      Turn poller trace (.reset position) (.tracking position)
  | stillResetting {trace : List (Sigma Effect.Answer)}
      (hstate : poller.state = .resetting) (hjump : Jump poller.account trace none) :
      Turn poller trace .skipped .resetting
  | unfetched {position : UInt64} {error : HistoryError}
      (hstate : poller.state = .tracking position) (hkept : error.isExpired = false) :
      Turn poller [⟨.historySince poller.account position, .error error⟩] .skipped
        (.tracking position)
  | expiredReset {position next : UInt64} {error : HistoryError}
      {trace : List (Sigma Effect.Answer)}
      (hstate : poller.state = .tracking position) (hexpired : error.isExpired = true)
      (hjump : Jump poller.account trace (some next)) :
      Turn poller (⟨.historySince poller.account position, .error error⟩ :: trace) (.reset next)
        (.tracking next)
  | expired {position : UInt64} {error : HistoryError} {trace : List (Sigma Effect.Answer)}
      (hstate : poller.state = .tracking position) (hexpired : error.isExpired = true)
      (hjump : Jump poller.account trace none) :
      Turn poller (⟨.historySince poller.account position, .error error⟩ :: trace) .skipped
        .resetting
  | unsaved {position : UInt64} {page : HistoryPage} {passed : List (Sigma Effect.Answer)}
      {error : CursorError} (hstate : poller.state = .tracking position)
      (hpassed : (poller.processAll page.entries).Returns passed ()) :
      Turn poller (⟨.historySince poller.account position, .ok page⟩ :: (passed ++
        [⟨.saveCursor poller.account (max page.position position), .error error⟩])) .skipped
        (.tracking position)
  | processed {position : UInt64} {page : HistoryPage} {passed : List (Sigma Effect.Answer)}
      (hstate : poller.state = .tracking position)
      (hpassed : (poller.processAll page.entries).Returns passed ()) :
      Turn poller (⟨.historySince poller.account position, .ok page⟩ :: (passed ++
        [⟨.saveCursor poller.account (max page.position position), .ok ()⟩]))
        (.processed page.entries.length (max page.position position))
        (.tracking (max page.position position))

theorem saveHighWater_returns {account : String} {trace : List (Sigma Effect.Answer)}
    {result : Option UInt64} (hreturns : (saveHighWater account).Returns trace result) :
    Jump account trace result := by
  simp only [saveHighWater, RelayM.query, Script.query, bind_eq_bind, ask_bind, done_bind,
    returns_ask_iff] at hreturns
  obtain ⟨fetched, trace, rfl, hreturns⟩ := hreturns
  cases fetched with
  | error error =>
    obtain ⟨rfl, rfl⟩ := returns_done_iff.1 hreturns
    exact .unfetched error
  | ok position =>
    simp only [returns_ask_iff] at hreturns
    obtain ⟨saved, trace, rfl, hreturns⟩ := hreturns
    cases saved with
    | error error =>
      obtain ⟨rfl, rfl⟩ := returns_done_iff.1 hreturns
      exact .unsaved position error
    | ok success =>
      obtain ⟨rfl, rfl⟩ := returns_done_iff.1 hreturns
      exact .saved position

theorem saveHighWater_bind_returns {account : String} {α : Type} {next : Option UInt64 → RelayM α}
    {value : Option UInt64 → α} (hnext : ∀ jumped, next jumped = .done (value jumped))
    {trace : List (Sigma Effect.Answer)} {result : α}
    (hreturns : ((saveHighWater account).bind next).Returns trace result) :
    ∃ jumped, Jump account trace jumped ∧ result = value jumped := by
  rw [returns_bind_iff] at hreturns
  obtain ⟨first, jumped, last, rfl, hjump, hlast⟩ := hreturns
  rw [hnext, returns_done_iff] at hlast
  obtain ⟨rfl, rfl⟩ := hlast
  rw [List.append_nil]
  exact ⟨jumped, saveHighWater_returns hjump, rfl⟩

theorem establish_returns {poller after : Poller} {trace : List (Sigma Effect.Answer)}
    {outcome : TickOutcome} (hreturns : poller.establish.Returns trace (outcome, after)) :
    ∃ jumped, Jump poller.account trace jumped ∧ (outcome, after) = match jumped with
      | some position => (.initialized position, { poller with state := .tracking position })
      | none => (.skipped, poller) := by
  refine saveHighWater_bind_returns ?_ hreturns
  rintro (- | position) <;> rfl

theorem reset_returns {poller after : Poller} {trace : List (Sigma Effect.Answer)}
    {outcome : TickOutcome} (hreturns : poller.reset.Returns trace (outcome, after)) :
    ∃ jumped, Jump poller.account trace jumped ∧ (outcome, after) = match jumped with
      | some position => (.reset position, { poller with state := .tracking position })
      | none => (.skipped, { poller with state := .resetting }) := by
  refine saveHighWater_bind_returns ?_ hreturns
  rintro (- | position) <;> rfl

theorem processAll_append (poller : Poller) (before after : List MailMessage) :
    poller.processAll (before ++ after) =
      (poller.processAll before).bind fun _ => poller.processAll after := by
  induction before with
  | nil => rfl
  | cons message rest ih =>
    simp only [List.cons_append, processAll, bind_eq_bind, bind_assoc, ih]

/-- Every message that is passed on goes through the whole of the pipeline, after those before it. -/
theorem processAll_returns {poller : Poller} {before after : List MailMessage}
    {message : MailMessage} {trace : List (Sigma Effect.Answer)}
    (hreturns : (poller.processAll (before ++ message :: after)).Returns trace ()) :
    ∃ earlier passage later outcome, trace = earlier ++ (passage ++ later) ∧
      (poller.processAll before).Returns earlier () ∧
      (Pipeline.process (message.toEvent poller.account) poller.rules).Returns passage outcome := by
  rw [processAll_append, returns_bind_iff] at hreturns
  obtain ⟨earlier, ⟨⟩, rest, rfl, hearlier, hrest⟩ := hreturns
  rw [processAll, bind_eq_bind, returns_bind_iff] at hrest
  obtain ⟨passage, outcome, later, rfl, hpassage, -⟩ := hrest
  exact ⟨earlier, passage, later, outcome, rfl, hearlier, hpassage⟩

theorem processAll_asksOnly (poller : Poller) (messages : List MailMessage) :
    (poller.processAll messages).AsksOnly Effect.IsPipeline := by
  induction messages with
  | nil => trivial
  | cons message rest ih => exact (Pipeline.process_asksOnly _ _).bind fun _ => ih

/-- In whatever state a poller is started, it takes up the saved position, or finds no usable one and
jumps. A jump that fails leaves the state as it was. -/
theorem start_resumes_or_jumps {poller after : Poller} {trace : List (Sigma Effect.Answer)}
    (hreturns : poller.start.Returns trace after) :
    (∃ position, 0 < position ∧ trace = [⟨.loadCursor poller.account, .ok (some position)⟩] ∧
      after = { poller with state := .tracking position }) ∨
    ∃ answer later result, (∀ position, answer = .ok (some position) → position = 0) ∧
      Jump poller.account later result ∧ trace = ⟨.loadCursor poller.account, answer⟩ :: later ∧
      after = { poller with state := (result.map .tracking).getD poller.state } := by
  simp only [start, RelayM.query, Script.query, bind_eq_bind, ask_bind, done_bind,
    returns_ask_iff] at hreturns
  obtain ⟨loaded, trace, rfl, hreturns⟩ := hreturns
  have jumped (hunusable : ∀ position, loaded = .ok (some position) → position = 0)
      (hreturns : (poller.establish.bind fun result => .done result.2).Returns trace after) :
      ∃ answer later result, (∀ position, answer = .ok (some position) → position = 0) ∧
        Jump poller.account later result ∧
        (⟨.loadCursor poller.account, loaded⟩ :: trace : List (Sigma Effect.Answer)) =
          ⟨.loadCursor poller.account, answer⟩ :: later ∧
        after = { poller with state := (result.map .tracking).getD poller.state } := by
    rw [returns_bind_iff] at hreturns
    obtain ⟨first, ⟨outcome, established⟩, last, rfl, hestablish, hlast⟩ := hreturns
    obtain ⟨rfl, rfl⟩ := returns_done_iff.1 hlast
    obtain ⟨result, hjump, hresult⟩ := establish_returns hestablish
    rw [List.append_nil]
    refine ⟨loaded, first, result, hunusable, hjump, rfl, ?_⟩
    cases result <;> exact (Prod.mk.inj hresult).2
  cases loaded with
  | error error => exact .inr (jumped (by intro position h; cases h) hreturns)
  | ok position? =>
    cases position? with
    | none => exact .inr (jumped (by intro position h; cases h) hreturns)
    | some position =>
      by_cases hpositive : 0 < position
      · simp only [if_pos hpositive, pure_eq_done, returns_done_iff] at hreturns
        obtain ⟨rfl, rfl⟩ := hreturns
        exact .inl ⟨position, hpositive, rfl, rfl⟩
      · simp only [if_neg hpositive] at hreturns
        refine .inr (jumped ?_ hreturns)
        intro other heq
        cases heq
        simpa using hpositive

theorem start_returns {poller after : Poller} {trace : List (Sigma Effect.Answer)}
    (hstate : poller.state = .uninitialized) (hreturns : poller.start.Returns trace after) :
    Startup poller.account trace after.state ∧ after = { poller with state := after.state } := by
  obtain ⟨position, hpositive, rfl, rfl⟩ | ⟨answer, later, result, hunusable, hjump, rfl, hafter⟩ :=
    start_resumes_or_jumps hreturns
  · exact ⟨.resumed position hpositive, rfl⟩
  · cases result with
    | none =>
      obtain rfl : after = poller := hafter
      rw [hstate]
      exact ⟨.failed answer hunusable hjump, by cases after; cases hstate; rfl⟩
    | some position =>
      obtain rfl : after = { poller with state := .tracking position } := hafter
      exact ⟨.jumped answer hunusable hjump, rfl⟩

theorem pollFrom_returns {poller after : Poller} {position : UInt64}
    (hstate : poller.state = .tracking position) {trace : List (Sigma Effect.Answer)}
    {outcome : TickOutcome} (hreturns : (poller.pollFrom position).Returns trace (outcome, after)) :
    Turn poller trace outcome after.state ∧ after = { poller with state := after.state } := by
  simp only [pollFrom, RelayM.query, Script.query, bind_eq_bind, ask_bind, done_bind,
    returns_ask_iff] at hreturns
  obtain ⟨fetched, trace, rfl, hreturns⟩ := hreturns
  cases fetched with
  | error error =>
    cases hexpired : error.isExpired with
    | false =>
      simp only [hexpired, Bool.false_eq_true, if_false, pure_eq_done, returns_done_iff] at hreturns
      obtain ⟨rfl, hafter⟩ := hreturns
      obtain ⟨rfl, rfl⟩ := Prod.mk.inj hafter
      rw [hstate]
      exact ⟨.unfetched hstate hexpired, by cases after; cases hstate; rfl⟩
    | true =>
      simp only [hexpired, if_true] at hreturns
      obtain ⟨position?, hjump, hresult⟩ := reset_returns hreturns
      cases position? with
      | none =>
        obtain ⟨rfl, rfl⟩ := Prod.mk.inj hresult
        exact ⟨.expired hstate hexpired hjump, rfl⟩
      | some next =>
        obtain ⟨rfl, rfl⟩ := Prod.mk.inj hresult
        exact ⟨.expiredReset hstate hexpired hjump, rfl⟩
  | ok page =>
    simp only [returns_bind_iff] at hreturns
    obtain ⟨passed, success, trace, rfl, hpassed, hreturns⟩ := hreturns
    simp only [returns_ask_iff] at hreturns
    obtain ⟨saved, trace, rfl, hreturns⟩ := hreturns
    cases saved with
    | error error =>
      obtain ⟨rfl, hafter⟩ := returns_done_iff.1 hreturns
      obtain ⟨rfl, rfl⟩ := Prod.mk.inj hafter
      rw [hstate]
      exact ⟨.unsaved hstate hpassed, by cases after; cases hstate; rfl⟩
    | ok success =>
      obtain ⟨rfl, hafter⟩ := returns_done_iff.1 hreturns
      obtain ⟨rfl, rfl⟩ := Prod.mk.inj hafter
      exact ⟨.processed hstate hpassed, rfl⟩

theorem tick_returns {poller after : Poller} {trace : List (Sigma Effect.Answer)}
    {outcome : TickOutcome} (hreturns : poller.tick.Returns trace (outcome, after)) :
    Turn poller trace outcome after.state ∧ after = { poller with state := after.state } := by
  rw [tick] at hreturns
  cases hstate : poller.state with
  | uninitialized =>
    simp only [hstate] at hreturns
    obtain ⟨position?, hjump, hresult⟩ := establish_returns hreturns
    cases position? with
    | none =>
      obtain ⟨rfl, rfl⟩ := Prod.mk.inj hresult
      rw [hstate]
      exact ⟨.unestablished hstate hjump, by cases after; cases hstate; rfl⟩
    | some position =>
      obtain ⟨rfl, rfl⟩ := Prod.mk.inj hresult
      exact ⟨.established hstate hjump, rfl⟩
  | resetting =>
    simp only [hstate] at hreturns
    obtain ⟨position?, hjump, hresult⟩ := reset_returns hreturns
    cases position? with
    | none =>
      obtain ⟨rfl, rfl⟩ := Prod.mk.inj hresult
      exact ⟨.stillResetting hstate hjump, rfl⟩
    | some position =>
      obtain ⟨rfl, rfl⟩ := Prod.mk.inj hresult
      exact ⟨.reset hstate hjump, rfl⟩
  | tracking position =>
    simp only [hstate] at hreturns
    exact pollFrom_returns hstate hreturns

section EndsWith

/-- Nothing is asked after a save, in starts and in ticks. -/
theorem saveHighWater_endsWith (account : String) :
    (saveHighWater account).EndsWith Effect.IsSave := by
  refine ⟨fun fetched => ?_, nofun⟩
  cases fetched with
  | error error => trivial
  | ok position =>
    refine ⟨fun saved => ?_, fun _ saved => ?_⟩ <;> cases saved
    · trivial
    · trivial
    · exact ⟨_, rfl⟩
    · exact ⟨_, rfl⟩

theorem establish_endsWith (poller : Poller) : poller.establish.EndsWith Effect.IsSave := by
  refine (saveHighWater_endsWith poller.account).bind_done ?_
  rintro (- | position)
  · exact ⟨_, rfl⟩
  · exact ⟨_, rfl⟩

theorem reset_endsWith (poller : Poller) : poller.reset.EndsWith Effect.IsSave := by
  refine (saveHighWater_endsWith poller.account).bind_done ?_
  rintro (- | position)
  · exact ⟨_, rfl⟩
  · exact ⟨_, rfl⟩

theorem pollFrom_endsWith (poller : Poller) (position : UInt64) :
    (poller.pollFrom position).EndsWith Effect.IsSave := by
  refine ⟨fun fetched => ?_, nofun⟩
  cases fetched with
  | error error =>
    cases hexpired : error.isExpired with
    | false => simp [hexpired, Script.EndsWith]
    | true => simpa [hexpired] using reset_endsWith poller
  | ok page =>
    refine (processAll_asksOnly poller page.entries).endsWith_bind ?_ fun _ => ⟨?_, ?_⟩
    · intro question hpipeline
      cases question <;> first | exact id | exact hpipeline.elim
    · intro saved
      cases saved <;> trivial
    · intro _ saved
      cases saved with
      | error error => exact ⟨_, rfl⟩
      | ok success => exact ⟨_, rfl⟩

theorem tick_endsWith (poller : Poller) : poller.tick.EndsWith Effect.IsSave := by
  rw [tick]
  cases poller.state with
  | uninitialized => exact establish_endsWith poller
  | resetting => exact reset_endsWith poller
  | tracking position => exact pollFrom_endsWith poller position

theorem start_endsWith (poller : Poller) : poller.start.EndsWith Effect.IsSave := by
  have hestablish : (poller.establish.bind fun result => .done result.2).EndsWith Effect.IsSave :=
    (establish_endsWith poller).bind_done fun result => ⟨result.2, rfl⟩
  refine ⟨fun loaded => ?_, nofun⟩
  cases loaded with
  | error error => exact hestablish
  | ok position? =>
    cases position? with
    | none => exact hestablish
    | some position =>
      by_cases hpositive : 0 < position
      · simp [hpositive, Script.EndsWith]
      · simpa [hpositive] using hestablish

end EndsWith

end Poller

end EventRelay
