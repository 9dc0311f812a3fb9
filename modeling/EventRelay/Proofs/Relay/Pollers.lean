import EventRelay.Startup
import EventRelay.Proofs.Except

namespace EventRelay.Relay

/-- A poller is run for each account of the rules file whose variable holds a token. -/
theorem mem_pollers_iff {environment : Environment} {settings : Settings} {rules : RulesFile}
    {plan : PollerPlan} :
    plan ∈ (Relay.new environment settings rules).pollers ↔
      plan.account ∈ rules.mail.accounts ∧ plan.token ≠ "" ∧
        environment plan.account.tokenVariable = some plan.token ∧
        plan.interval = rules.mail.interval plan.account settings.pollInterval := by
  have hplan {account : MailAccount} :
      planPoller? environment settings rules.mail account = some plan ↔
        ∃ token, environment account.tokenVariable = some token ∧ token ≠ "" ∧
          plan = ⟨account, token, rules.mail.interval account settings.pollInterval⟩ := by
    have hnonempty {value token : String} :
        nonempty? value = some token ↔ value = token ∧ token ≠ "" := by
      unfold nonempty?
      grind
    simp [planPoller?, Option.bind_eq_some_iff, hnonempty, eq_comm (b := plan), and_assoc]
  simp only [Relay.new, List.mem_filterMap, hplan]
  constructor
  · rintro ⟨account, hmem, token, htoken, hnonempty, rfl⟩
    exact ⟨hmem, hnonempty, htoken, rfl⟩
  · rintro ⟨hmem, hnonempty, htoken, hinterval⟩
    exact ⟨plan.account, hmem, plan.token, htoken, hnonempty, by rw [← hinterval]⟩

/-- A relay is set up from the settings that the variables make and from the rules file that the
settings name. -/
theorem run_prepare_eq_ok {environment : Environment}
    {readFile : String → Id (Except FileError (List UInt8))} {relay : Relay} :
    (prepare environment readFile).run = .ok relay ↔
      ∃ settings rules, Settings.read environment = .ok settings ∧
        RulesFile.load environment settings.rulesPath (readFile settings.rulesPath).run = .ok rules ∧
        relay = .new environment settings rules := by
  rw [prepare]
  cases hread : Settings.read environment with
  | error error => simp
  | ok settings =>
    cases hload : RulesFile.load environment settings.rulesPath (readFile settings.rulesPath).run with
    | error error => simp [hload]
    | ok rules => simp [hload, eq_comm]

end EventRelay.Relay
