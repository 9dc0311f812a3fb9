import EventRelay.Proofs.Choice
import EventRelay.Proofs.Relay.Pollers
import EventRelay.Proofs.Text.Decimal
import EventRelay.Timetable

namespace EventRelay

open Text

/-- The interval that the variable sets, if it holds a number. Blanks around the number do not count. -/
def Settings.writtenInterval? (environment : Environment) : Option UInt64 := do
  let text ← environment "RELAY_POLL_INTERVAL_SECS"
  let seconds ← (readNat maxUInt64 (trim text.toList)).toOption
  return seconds.toUInt64

theorem Settings.readPollInterval_eq (environment : Environment) :
    readPollInterval environment =
      firstSet 0 [(writtenInterval? environment).getD 0, defaultPollInterval] := by
  rw [firstSet_cons, firstSet_singleton, readPollInterval, writtenInterval?, get?]
  cases hvalue : environment "RELAY_POLL_INTERVAL_SECS" with
  | none => rfl
  | some text =>
    by_cases hblank : trim text.toList = []
    · simp [hblank, readNat, Except.toOption]
    · cases hread : readNat maxUInt64 (trim text.toList) with
      | error error => simp [hread, Except.toOption]
      | ok seconds =>
        have hle : seconds ≤ 18446744073709551615 := readNat_le hread
        have hzero : seconds.toUInt64 = 0 ↔ seconds = 0 := by
          rw [← UInt64.toNat_inj, Nat.toUInt64, UInt64.toNat_ofNat', UInt64.toNat_zero]
          omega
        simp [hblank, hread, hzero, Except.toOption, Option.filter]

/-- A zero of the account keeps the section from being asked; a missing interval does not. -/
theorem MailSection.interval_eq (mail : MailSection) (account : MailAccount) (fallback : UInt64) :
    mail.interval account fallback =
      firstSet 0 [(account.pollInterval?.or mail.pollInterval?).getD 0, fallback] := by
  rw [interval, firstSet_cons, firstSet_singleton]
  cases account.pollInterval?.or mail.pollInterval? <;> rfl

/-- What a poller's interval is taken from. -/
structure PollerPlan.Paced (environment : Environment) (mail : MailSection) (plan : PollerPlan) :
    Prop where
  positive : 0 < plan.interval
  /-- The first positive interval of the account, the section, the variable and the default, unless
  the account's own is zero. -/
  first : plan.account.pollInterval? ≠ some 0 → plan.interval =
    firstSet 0 [plan.account.pollInterval?.getD 0, mail.pollInterval?.getD 0,
      (Settings.writtenInterval? environment).getD 0, 60]
  /-- Behind a zero of the account the section is passed over. -/
  zero : plan.account.pollInterval? = some 0 →
    plan.interval = firstSet 0 [(Settings.writtenInterval? environment).getD 0, 60]
  scheduled : ∃ table, Timetable.ofMilliseconds? (1000 * plan.interval.toNat) = some table

theorem PollerPlan.paced_of_interval {environment : Environment} {mail : MailSection}
    {plan : PollerPlan}
    (hinterval : plan.interval =
      mail.interval plan.account (Settings.readPollInterval environment)) :
    plan.Paced environment mail := by
  have hfallback : Settings.readPollInterval environment ≠ 0 := by
    rw [Settings.readPollInterval_eq]
    exact firstSet_ne_unset (List.mem_cons_of_mem _ List.mem_cons_self) (by decide)
  have hpositive : plan.interval ≠ 0 := by
    rw [hinterval, MailSection.interval_eq]
    exact firstSet_ne_unset (List.mem_cons_of_mem _ List.mem_cons_self) hfallback
  have hlevels : plan.interval =
      firstSet 0 [(plan.account.pollInterval?.or mail.pollInterval?).getD 0,
        (Settings.writtenInterval? environment).getD 0, 60] := by
    rw [hinterval, MailSection.interval_eq, Settings.readPollInterval_eq]
    exact firstSet_concat_firstSet 0 [_] _
  refine ⟨UInt64.pos_iff_ne_zero.2 hpositive, ?_, ?_, ?_⟩
  · intro hown
    rw [hlevels]
    cases haccount : plan.account.pollInterval? with
    | none => rfl
    | some seconds =>
      have hseconds : seconds ≠ 0 := by
        rintro rfl
        exact hown haccount
      simp [firstSet_cons, hseconds]
  · intro hown
    rw [hlevels, hown]
    rfl
  · have hmilliseconds : 0 < 1000 * plan.interval.toNat := by
      have hseconds : plan.interval.toNat ≠ 0 := fun hzero => hpositive (UInt64.toNat_inj.1 hzero)
      omega
    exact ⟨⟨_, hmilliseconds⟩, dif_pos hmilliseconds⟩

namespace Relay

/-- Every poller of a relay that could be set up has an interval to wait for, which its account, the
mail section, the variable or the default gives; and every account with a token has a poller. -/
theorem pollers_paced {environment : Environment}
    {readFile : String → Id (Except FileError (List UInt8))} {relay : Relay}
    (hprepared : (prepare environment readFile).run = .ok relay) :
    (∀ plan ∈ relay.pollers, plan.account ∈ relay.rules.mail.accounts ∧
      plan.Paced environment relay.rules.mail) ∧
    ∀ account ∈ relay.rules.mail.accounts, ∀ token, environment account.tokenVariable = some token →
      token ≠ "" → ∃ plan ∈ relay.pollers, plan.account = account := by
  obtain ⟨settings, rules, hread, hload, rfl⟩ := run_prepare_eq_ok.1 hprepared
  have hfallback : settings.pollInterval = Settings.readPollInterval environment := by
    rw [Settings.read] at hread
    simp only [bind_eq_ok] at hread
    obtain ⟨port, -, notifyMode, -, hsettings⟩ := hread
    rw [← Except.ok.inj hsettings]
  constructor
  · intro plan hplan
    obtain ⟨haccount, -, -, hinterval⟩ := mem_pollers_iff.1 hplan
    exact ⟨haccount, PollerPlan.paced_of_interval (by rw [← hfallback]; exact hinterval)⟩
  · intro account haccount token htoken hnonempty
    exact ⟨⟨account, token, rules.mail.interval account settings.pollInterval⟩,
      mem_pollers_iff.2 ⟨haccount, hnonempty, htoken, rfl⟩, rfl⟩

/-- Variables that give two mailboxes a token and ask for a poll every quarter of a minute. -/
def quarterMinute : Environment
  | "GMAIL_TOKEN_A" | "GMAIL_TOKEN_B" => some "t"
  | "RELAY_POLL_INTERVAL_SECS" => some " 15 "
  | _ => none

/-- A rules file whose mail section asks for a poll every half minute. The second of its two mailboxes
has an interval of zero. -/
def halfMinuteFile : List UInt8 :=
  (Json.Value.object [("gmail", .object [("poll_interval_secs", .natural 30), ("accounts", .array
    [.object [("email", .string "a")],
     .object [("email", .string "b"), ("poll_interval_secs", .natural 0)]])])]).bytes

def twoMailboxes : Relay where
  settings := ⟨8080, "data", "relay.json", none, 15,
    ⟨"", "", "main", "anthropic/claude-sonnet-4-6"⟩, "", none, "", .all, ""⟩
  rules := ⟨.empty, [], ⟨some 30, [⟨"a", none, none, []⟩, ⟨"b", none, some 0, []⟩], []⟩⟩
  pollers := [⟨⟨"a", none, none, []⟩, "t", 30⟩, ⟨⟨"b", none, some 0, []⟩, "t", 15⟩]

theorem run_prepare_twoMailboxes :
    (prepare quarterMinute fun _ => (.ok halfMinuteFile : Id _)).run = .ok twoMailboxes := by
  decide +kernel

/-- The first mailbox goes by the section. -/
theorem pollers_paced_of_section :
    (prepare quarterMinute fun _ => (.ok halfMinuteFile : Id _)).run = .ok twoMailboxes ∧
      ∃ plan ∈ twoMailboxes.pollers, plan.Paced quarterMinute twoMailboxes.rules.mail ∧
        plan.account.pollInterval? ≠ some 0 ∧ plan.interval = 30 := by
  obtain ⟨hpaced, -⟩ := pollers_paced run_prepare_twoMailboxes
  refine ⟨run_prepare_twoMailboxes, ⟨⟨"a", none, none, []⟩, "t", 30⟩, List.mem_cons_self, ?_,
    nofun, rfl⟩
  exact (hpaced _ List.mem_cons_self).2

/-- The second mailbox, whose own interval is zero, does not: the zero hides the section's half
minute. -/
theorem exists_section_hidden :
    (prepare quarterMinute fun _ => (.ok halfMinuteFile : Id _)).run = .ok twoMailboxes ∧
      ∃ plan ∈ twoMailboxes.pollers, plan.interval ≠
        firstSet 0 [plan.account.pollInterval?.getD 0, twoMailboxes.rules.mail.pollInterval?.getD 0,
          (Settings.writtenInterval? quarterMinute).getD 0, 60] := by
  refine ⟨run_prepare_twoMailboxes, ⟨⟨"b", none, some 0, []⟩, "t", 15⟩, ?_, ?_⟩
  · exact List.mem_cons_of_mem _ List.mem_cons_self
  · decide

end Relay

end EventRelay
