import EventRelay.Script

namespace EventRelay.Script

variable {Question : Type} {Answer : Question → Type} {α β : Type}

@[simp] theorem pure_eq_done (value : α) :
    (pure value : Script Question Answer α) = done value :=
  rfl

@[simp] theorem bind_eq_bind (script : Script Question Answer α)
    (next : α → Script Question Answer β) : script >>= next = script.bind next :=
  rfl

@[simp] theorem done_bind (value : α) (next : α → Script Question Answer β) :
    (done value).bind next = next value :=
  rfl

@[simp] theorem ask_bind (question : Question) (rest : Answer question → Script Question Answer α)
    (next : α → Script Question Answer β) :
    (ask question rest).bind next = ask question fun answer => (rest answer).bind next :=
  rfl

theorem bind_assoc {γ : Type} (script : Script Question Answer α)
    (next : α → Script Question Answer β) (last : β → Script Question Answer γ) :
    (script.bind next).bind last = script.bind fun value => (next value).bind last := by
  induction script with
  | done value => rfl
  | ask question inner ih => simp only [ask_bind, ih]

theorem bind_done (script : Script Question Answer α) : script.bind done = script := by
  induction script with
  | done value => rfl
  | ask question inner ih => simp only [ask_bind, ih]

/-- A script has run along a trace of questions and answers, and the rest is what it still has to do.
Nothing is said about where the answers come from, nor that the script runs to its end. -/
inductive Runs : Script Question Answer α → List (Sigma Answer) → Script Question Answer α → Prop
  | stay (script : Script Question Answer α) : Runs script [] script
  | answered {question : Question} {next : Answer question → Script Question Answer α}
      {trace : List (Sigma Answer)} {rest : Script Question Answer α} (answer : Answer question) :
      Runs (next answer) trace rest → Runs (ask question next) (⟨question, answer⟩ :: trace) rest

/-- A script has run to its end along a trace. -/
abbrev Returns (script : Script Question Answer α) (trace : List (Sigma Answer)) (value : α) : Prop :=
  Runs script trace (done value)

theorem runs_done_iff {value : α} {trace : List (Sigma Answer)} {rest : Script Question Answer α} :
    Runs (done value) trace rest ↔ trace = [] ∧ rest = done value := by
  constructor
  · intro hrun
    cases hrun
    exact ⟨rfl, rfl⟩
  · rintro ⟨rfl, rfl⟩
    exact .stay _

theorem runs_ask_iff {question : Question} {next : Answer question → Script Question Answer α}
    {trace : List (Sigma Answer)} {rest : Script Question Answer α} :
    Runs (ask question next) trace rest ↔
      (trace = [] ∧ rest = ask question next) ∨
        ∃ answer later, trace = ⟨question, answer⟩ :: later ∧ Runs (next answer) later rest := by
  constructor
  · intro hrun
    cases hrun with
    | stay => exact .inl ⟨rfl, rfl⟩
    | answered answer hlater => exact .inr ⟨answer, _, rfl, hlater⟩
  · rintro (⟨rfl, rfl⟩ | ⟨answer, later, rfl, hlater⟩)
    · exact .stay _
    · exact .answered answer hlater

theorem returns_done_iff {value result : α} {trace : List (Sigma Answer)} :
    Returns (done value : Script Question Answer α) trace result ↔ trace = [] ∧ result = value := by
  rw [Returns, runs_done_iff, done.injEq]

theorem returns_ask_iff {question : Question} {next : Answer question → Script Question Answer α}
    {trace : List (Sigma Answer)} {result : α} :
    Returns (ask question next) trace result ↔
      ∃ answer later, trace = ⟨question, answer⟩ :: later ∧ Returns (next answer) later result := by
  rw [Returns, runs_ask_iff]
  simp

theorem Runs.trans {script middle rest : Script Question Answer α} {first second : List (Sigma Answer)}
    (hfirst : Runs script first middle) (hsecond : Runs middle second rest) :
    Runs script (first ++ second) rest := by
  induction hfirst with
  | stay => exact hsecond
  | answered answer _ ih => exact .answered answer (ih hsecond)

/-- A script that has a question ahead can have it answered. -/
theorem Runs.concat {script : Script Question Answer α} {trace : List (Sigma Answer)}
    {question : Question} {next : Answer question → Script Question Answer α}
    (hrun : Runs script trace (ask question next)) (answer : Answer question) :
    Runs script (trace ++ [⟨question, answer⟩]) (next answer) :=
  hrun.trans (.answered answer (.stay _))

theorem Runs.bind {script rest : Script Question Answer α} {trace : List (Sigma Answer)}
    (hrun : Runs script trace rest) (next : α → Script Question Answer β) :
    Runs (script.bind next) trace (rest.bind next) := by
  induction hrun with
  | stay => exact .stay _
  | answered answer _ ih => exact .answered answer ih

/-- A script followed by another is still in its first part, or has finished that and is in the
second. -/
theorem runs_bind_iff {script : Script Question Answer α} {next : α → Script Question Answer β}
    {trace : List (Sigma Answer)} {rest : Script Question Answer β} :
    Runs (script.bind next) trace rest ↔
      (∃ middle, Runs script trace middle ∧ rest = middle.bind next) ∨
        ∃ before value after, trace = before ++ after ∧ Returns script before value ∧
          Runs (next value) after rest := by
  constructor
  · intro hrun
    induction script generalizing trace with
    | done value => exact .inr ⟨[], value, trace, rfl, .stay _, hrun⟩
    | ask question inner ih =>
      rw [ask_bind, runs_ask_iff] at hrun
      obtain ⟨rfl, rfl⟩ | ⟨answer, later, rfl, hlater⟩ := hrun
      · exact .inl ⟨ask question inner, .stay _, rfl⟩
      · obtain ⟨middle, hmiddle, rfl⟩ | ⟨before, value, after, rfl, hvalue, hafter⟩ := ih answer hlater
        · exact .inl ⟨middle, .answered answer hmiddle, rfl⟩
        · exact .inr ⟨⟨question, answer⟩ :: before, value, after, rfl, .answered answer hvalue, hafter⟩
  · rintro (⟨middle, hmiddle, rfl⟩ | ⟨before, value, after, rfl, hvalue, hafter⟩)
    · exact hmiddle.bind next
    · exact (hvalue.bind next).trans hafter

theorem bind_eq_done_iff {script : Script Question Answer α} {next : α → Script Question Answer β}
    {result : β} :
    script.bind next = done result ↔ ∃ value, script = done value ∧ next value = done result := by
  cases script <;> simp

theorem returns_bind_iff {script : Script Question Answer α} {next : α → Script Question Answer β}
    {trace : List (Sigma Answer)} {result : β} :
    Returns (script.bind next) trace result ↔
      ∃ before value after, trace = before ++ after ∧ Returns script before value ∧
        Returns (next value) after result := by
  rw [Returns, runs_bind_iff]
  constructor
  · rintro (⟨middle, hmiddle, hdone⟩ | hparts)
    · obtain ⟨value, rfl, hvalue⟩ := bind_eq_done_iff.1 hdone.symm
      exact ⟨trace, value, [], by simp, hmiddle, by rw [hvalue]; exact .stay _⟩
    · exact hparts
  · exact .inr

/-- Every question that a script may ask, whatever the answers, is one of the given kind. -/
def AsksOnly (allowed : Question → Prop) : Script Question Answer α → Prop
  | done _ => True
  | ask question next => allowed question ∧ ∀ answer, AsksOnly allowed (next answer)

theorem AsksOnly.mono {allowed allowed' : Question → Prop} {script : Script Question Answer α}
    (hscript : script.AsksOnly allowed) (himp : ∀ question, allowed question → allowed' question) :
    script.AsksOnly allowed' := by
  induction script with
  | done value => trivial
  | ask question inner ih => exact ⟨himp question hscript.1, fun answer => ih answer (hscript.2 answer)⟩

theorem AsksOnly.bind {allowed : Question → Prop} {script : Script Question Answer α}
    {next : α → Script Question Answer β} (hscript : script.AsksOnly allowed)
    (hnext : ∀ value, (next value).AsksOnly allowed) : (script.bind next).AsksOnly allowed := by
  induction script with
  | done value => exact hnext value
  | ask question inner ih => exact ⟨hscript.1, fun answer => ih answer (hscript.2 answer)⟩

theorem Runs.asksOnly {allowed : Question → Prop} {script rest : Script Question Answer α}
    {trace : List (Sigma Answer)} (hrun : Runs script trace rest) (hscript : script.AsksOnly allowed) :
    (∀ exchange ∈ trace, allowed exchange.1) ∧ rest.AsksOnly allowed := by
  induction hrun with
  | stay => exact ⟨by simp, hscript⟩
  | answered answer _ ih =>
    obtain ⟨hlater, hrest⟩ := ih (hscript.2 answer)
    refine ⟨?_, hrest⟩
    intro exchange hmem
    obtain rfl | hmem := List.mem_cons.1 hmem
    · exact hscript.1
    · exact hlater exchange hmem

/-- A script asks nothing any more after a question of the given kind, whatever the answers. -/
def EndsWith (final : Question → Prop) : Script Question Answer α → Prop
  | done _ => True
  | ask question next => (∀ answer, EndsWith final (next answer)) ∧
      (final question → ∀ answer, ∃ value, next answer = done value)

theorem Runs.endsWith {final : Question → Prop} {script rest : Script Question Answer α}
    {trace : List (Sigma Answer)} (hrun : Runs script trace rest) (hscript : script.EndsWith final) :
    rest.EndsWith final := by
  induction hrun with
  | stay => exact hscript
  | answered answer _ ih => exact ih (hscript.1 answer)

theorem EndsWith.bind_done {final : Question → Prop} {script : Script Question Answer α}
    {next : α → Script Question Answer β} (hscript : script.EndsWith final)
    (hnext : ∀ value, ∃ result, next value = done result) : (script.bind next).EndsWith final := by
  induction script with
  | done value =>
    obtain ⟨result, hresult⟩ := hnext value
    rw [done_bind, hresult]
    trivial
  | ask question inner ih =>
    refine ⟨fun answer => ih answer (hscript.1 answer), ?_⟩
    intro hfinal answer
    obtain ⟨value, hvalue⟩ := hscript.2 hfinal answer
    obtain ⟨result, hresult⟩ := hnext value
    exact ⟨result, by simp only [hvalue, done_bind, hresult]⟩

theorem AsksOnly.endsWith_bind {allowed final : Question → Prop} {script : Script Question Answer α}
    {next : α → Script Question Answer β} (hscript : script.AsksOnly allowed)
    (hallowed : ∀ question, allowed question → ¬ final question)
    (hnext : ∀ value, (next value).EndsWith final) : (script.bind next).EndsWith final := by
  induction script with
  | done value => exact hnext value
  | ask question inner ih =>
    exact ⟨fun answer => ih answer (hscript.2 answer),
      fun hfinal => absurd hfinal (hallowed question hscript.1)⟩

end EventRelay.Script
