import EventRelay.Ingest.Push
import EventRelay.Proofs.Deduplicator.Entries
import EventRelay.Proofs.Pipeline.Trace

namespace EventRelay

open Script

namespace Rule

variable {event : Event} {rules : List Rule} {rule : Rule}

/-- A rule is about events of this kind, and what it asks holds of the facts. -/
structure Fits (rule : Rule) (event : Event) : Prop where
  kind_eq : rule.eventKind = event.kind
  condition : rule.condition.holds event.facts = true
  mailMatch : rule.mailMatch.holds event.facts = true

theorem applies_iff_fits : rule.applies event.kind event.facts = true ↔ rule.Fits event := by
  simp only [applies, Bool.and_eq_true, beq_iff_eq]
  exact ⟨fun ⟨⟨hkind, hcondition⟩, hmail⟩ => ⟨hkind, hcondition, hmail⟩,
    fun ⟨hkind, hcondition, hmail⟩ => ⟨⟨hkind, hcondition⟩, hmail⟩⟩

/-- The rule at an index fits, and none before it does. -/
structure Decides (rules : List Rule) (event : Event) (index : Nat) (rule : Rule) : Prop where
  at_index : rules[index]? = some rule
  fits : rule.Fits event
  first : ∀ earlier < index, ∀ other, rules[earlier]? = some other → ¬ other.Fits event

theorem findFirst?_eq_none_iff :
    findFirst? rules event.kind event.facts = none ↔ ∀ rule ∈ rules, ¬ rule.Fits event := by
  simp only [findFirst?, List.find?_eq_none, applies_iff_fits]

theorem findFirst?_eq_some_iff :
    findFirst? rules event.kind event.facts = some rule ↔ ∃ index, Decides rules event index rule := by
  rw [findFirst?, List.find?_eq_some_iff_getElem, applies_iff_fits]
  constructor
  · rintro ⟨hfits, index, hindex, rfl, hbefore⟩
    refine ⟨index, List.getElem?_eq_getElem hindex, hfits, ?_⟩
    intro earlier hearlier other hother hfit
    obtain ⟨hlength, rfl⟩ := List.getElem?_eq_some_iff.1 hother
    have hskipped := hbefore earlier hearlier
    simp [applies_iff_fits.2 hfit] at hskipped
  · rintro ⟨index, hat, hfits, hfirst⟩
    obtain ⟨hindex, rfl⟩ := List.getElem?_eq_some_iff.1 hat
    refine ⟨hfits, index, hindex, rfl, ?_⟩
    intro earlier hearlier
    have hlength : earlier < rules.length := Nat.lt_trans hearlier hindex
    have hskipped := hfirst earlier hearlier _ (List.getElem?_eq_getElem hlength)
    simpa [← applies_iff_fits] using hskipped

/-- Rules of other kinds are passed over, wherever they stand. -/
theorem findFirst?_filter (rules : List Rule) (kind : String) (facts : Fields) :
    findFirst? (rules.filter (·.eventKind == kind)) kind facts = findFirst? rules kind facts := by
  rw [findFirst?, findFirst?, List.find?_filter]
  congr
  funext rule
  cases hkind : rule.eventKind == kind <;> simp [applies, hkind]

/-- The list is not read beyond a rule that fits. -/
theorem findFirst?_append_cons (hfits : rule.Fits event) (before after : List Rule) :
    findFirst? (before ++ rule :: after) event.kind event.facts =
      findFirst? (before ++ [rule]) event.kind event.facts := by
  simp [findFirst?, List.find?_append, applies_iff_fits.2 hfits]

end Rule

/-- The deduplicator, and all calls made to the gateway so far. -/
structure Scene where
  dedup : Deduplicator
  calls : List Action

/-- What the clock shows while an event is processed, what the gateway replies to each action, and what
is answered to questions about accounts. -/
structure Setting where
  time : Nat
  gateway : Action → Except GatewayError Unit
  account : (question : Effect) → question.Answer

namespace Setting

def answer (setting : Setting) : (question : Effect) → StateM Scene question.Answer
  | .now => pure setting.time
  | .allow key time => fun scene =>
    ((scene.dedup.allow key time).1, { scene with dedup := (scene.dedup.allow key time).2 })
  | .sweep time => fun scene =>
    ((scene.dedup.sweep time).1, { scene with dedup := (scene.dedup.sweep time).2 })
  | .deliver action => fun scene =>
    (setting.gateway action, { scene with calls := scene.calls ++ [action] })
  | question => pure (setting.account question)

/-- Does work from a scene on. It gives the value of the work and the scene afterwards. -/
def play {α : Type} (setting : Setting) (work : RelayM α) (scene : Scene) : α × Scene :=
  work.run setting.answer scene

variable {setting : Setting} {α : Type} {scene : Scene}

@[simp] theorem play_done (value : α) : setting.play (.done value) scene = (value, scene) :=
  rfl

@[simp] theorem play_now (next : Nat → RelayM α) :
    setting.play (.ask .now next) scene = setting.play (next setting.time) scene :=
  rfl

@[simp] theorem play_allow (key : String) (time : Nat) (next : Bool → RelayM α) :
    setting.play (.ask (.allow key time) next) scene =
      setting.play (next (scene.dedup.allow key time).1)
        ⟨(scene.dedup.allow key time).2, scene.calls⟩ :=
  rfl

/-- Work that follows other work begins in the scene that the other leaves. -/
theorem play_bind {β : Type} (work : RelayM α) (next : α → RelayM β) (scene : Scene) :
    setting.play (work.bind next) scene =
      setting.play (next (setting.play work scene).1) (setting.play work scene).2 := by
  induction work generalizing scene with
  | done value => rfl
  | ask question rest ih =>
    exact ih (setting.answer question scene).1 (setting.answer question scene).2

@[simp] theorem play_deliver (action : Action) (next : Except GatewayError Unit → RelayM α) :
    setting.play (.ask (.deliver action) next) scene =
      setting.play (next (setting.gateway action)) ⟨scene.dedup, scene.calls ++ [action]⟩ :=
  rfl

end Setting

namespace Pipeline

variable {event : Event} {rules : List Rule} {setting : Setting} {scene : Scene}

/-- What is to become of an event in a scene: its outcome, and the scene afterwards. -/
structure Judged (setting : Setting) (event : Event) (rules : List Rule) (before : Scene)
    (outcome : Outcome) (after : Scene) : Prop where
  /-- An entry from the future has age zero. -/
  suppressed_iff : outcome = .suppressed ↔ ∃ last,
    before.dedup.lastSeen? (event.source.tag ++ ":" ++ event.subject ++ ":" ++ event.discriminator) =
      some last ∧ setting.time - last < before.dedup.ttl
  unchanged : outcome = .suppressed → after = before
  recorded : outcome ≠ .suppressed → after.dedup.ttl = before.dedup.ttl ∧
    ∀ key, after.dedup.lastSeen? key =
      if key = event.source.tag ++ ":" ++ event.subject ++ ":" ++ event.discriminator then
        some setting.time
      else before.dedup.lastSeen? key
  unmatched : outcome ≠ .suppressed → (∀ rule ∈ rules, ¬ rule.Fits event) →
    outcome = .noMatch ∧ after.calls = before.calls
  matched : outcome ≠ .suppressed → (∃ rule ∈ rules, rule.Fits event) →
    ∃ index rule, Rule.Decides rules event index rule ∧
      outcome = afterReply (setting.gateway (rule.actionFor event)) ∧
      after.calls = before.calls ++ [rule.actionFor event]

theorem play_process : setting.play (process event rules) scene =
    if scene.dedup.suppresses event.dedupKey setting.time then (.suppressed, scene)
    else setting.play (afterCheck event rules true)
      ⟨scene.dedup.record event.dedupKey setting.time, scene.calls⟩ := by
  rw [process_eq, Setting.play_now, Setting.play_allow, Deduplicator.fst_allow, Deduplicator.snd_allow]
  cases scene.dedup.suppresses event.dedupKey setting.time <;> rfl

theorem play_afterCheck_of_none (hrule : Rule.findFirst? rules event.kind event.facts = none) :
    setting.play (afterCheck event rules true) scene = (.noMatch, scene) := by
  simp [afterCheck, hrule]

theorem play_afterCheck_of_some {rule : Rule}
    (hrule : Rule.findFirst? rules event.kind event.facts = some rule) :
    setting.play (afterCheck event rules true) scene =
      (afterReply (setting.gateway (rule.actionFor event)),
        ⟨scene.dedup, scene.calls ++ [rule.actionFor event]⟩) := by
  simp [afterCheck_of_rule hrule]

theorem afterReply_ne_suppressed (reply : Except GatewayError Unit) :
    afterReply reply ≠ .suppressed := by
  cases reply <;> simp [afterReply]

theorem afterReply_ne_noMatch (reply : Except GatewayError Unit) : afterReply reply ≠ .noMatch := by
  cases reply <;> simp [afterReply]

theorem play_process_judged (setting : Setting) (scene : Scene) (event : Event) (rules : List Rule) :
    Judged setting event rules scene (setting.play (process event rules) scene).1
      (setting.play (process event rules) scene).2 := by
  rw [play_process]
  cases hheld : scene.dedup.suppresses event.dedupKey setting.time with
  | true =>
    have hrecent := Deduplicator.suppresses_iff_lastSeen?.1 hheld
    exact ⟨iff_of_true rfl hrecent, fun _ => rfl, fun hnot => absurd rfl hnot,
      fun hnot => absurd rfl hnot, fun hnot => absurd rfl hnot⟩
  | false =>
    have hstale := mt Deduplicator.suppresses_iff_lastSeen?.2 (Bool.eq_false_iff.1 hheld)
    have hlookup := scene.dedup.lastSeen?_record event.dedupKey setting.time
    rw [if_neg Bool.false_ne_true]
    cases hrule : Rule.findFirst? rules event.kind event.facts with
    | none =>
      have hnone := Rule.findFirst?_eq_none_iff.1 hrule
      rw [play_afterCheck_of_none hrule]
      refine ⟨iff_of_false nofun hstale, nofun, fun _ => ⟨rfl, hlookup⟩, fun _ _ => ⟨rfl, rfl⟩, ?_⟩
      rintro - ⟨rule, hmem, hfits⟩
      exact absurd hfits (hnone rule hmem)
    | some rule =>
      obtain ⟨index, hdecides⟩ := Rule.findFirst?_eq_some_iff.1 hrule
      have hmem : rule ∈ rules := List.mem_of_getElem? hdecides.at_index
      have houtcome := afterReply_ne_suppressed (setting.gateway (rule.actionFor event))
      rw [play_afterCheck_of_some hrule]
      exact ⟨iff_of_false houtcome hstale, fun heq => absurd heq houtcome, fun _ => ⟨rfl, hlookup⟩,
        fun _ hnone => absurd hdecides.fits (hnone rule hmem),
        fun _ _ => ⟨index, rule, hdecides, rfl, rfl⟩⟩

/-- Rules matter to an event only through the one that decides about it. -/
theorem process_congr {rules' : List Rule}
    (hrules : Rule.findFirst? rules event.kind event.facts =
      Rule.findFirst? rules' event.kind event.facts) :
    process event rules = process event rules' := by
  simp only [process, hrules]

/-- What the pipeline does when work begins in a scene. -/
structure Reference (setting : Setting) (scene : Scene) : Prop where
  judged : ∀ (event : Event) (rules : List Rule),
    Judged setting event rules scene (setting.play (process event rules) scene).1
      (setting.play (process event rules) scene).2
  /-- Rules of other kinds may be added, left out and moved. -/
  other_kinds : ∀ (event : Event) (rules rules' : List Rule),
    rules.filter (·.eventKind == event.kind) = rules'.filter (·.eventKind == event.kind) →
      process event rules = process event rules'
  /-- Behind a rule that fits there may be any others. -/
  later_rules : ∀ (event : Event) (before : List Rule) (rule : Rule) (after after' : List Rule),
    rule.Fits event →
      process event (before ++ rule :: after) = process event (before ++ rule :: after')
  ignored : ∀ (ingest : PushIngest) (source : PushSource) (body : List UInt8) (tag : String),
    ingest.event? source body tag = none →
      setting.play (ingest.handle source body tag) scene = (false, scene)

/-- The pipeline makes one call at most, for the first rule that fits an event, and records the key of
every event that it does not hold back. -/
theorem process_reference (setting : Setting) (scene : Scene) : Reference setting scene where
  judged := play_process_judged setting scene
  other_kinds := by
    intro event rules rules' hfilter
    refine process_congr ?_
    rw [← Rule.findFirst?_filter rules, hfilter, Rule.findFirst?_filter]
  later_rules := by
    intro event before rule after after' hfits
    refine process_congr ?_
    rw [Rule.findFirst?_append_cons hfits, Rule.findFirst?_append_cons hfits before after']
  ignored := by
    intro ingest source body tag hnone
    simp [PushIngest.handle, hnone]

/-- At the end of its window a key holds no event back any more, and the first rule is passed over,
since it is about another kind. -/
theorem process_reference_at_window_end : ∃ (setting : Setting) (event : Event) (other rule : Rule),
    let before : Scene := ⟨⟨5, [("mail:s:d", 3)]⟩, []⟩
    let after := (setting.play (process event [other, rule]) before).2
    setting.time = 8 ∧ event.dedupKey = "mail:s:d" ∧ other.eventKind ≠ event.kind ∧
      rule.Fits event ∧ after.calls = [rule.actionFor event] ∧
      after.dedup.lastSeen? "mail:s:d" = some 8 := by
  let event : Event := ⟨.mail, "k", "s", "d", "", ⟨[]⟩, ⟨[]⟩⟩
  let other : Rule := ⟨"", "o", .always, .anything, .unset⟩
  let rule : Rule := ⟨"", "k", .always, .anything, .unset⟩
  have account : (question : Effect) → question.Answer := by
    intro question
    cases question with
    | now | sweep => exact (0 : Nat)
    | allow => exact false
    | deliver | saveCursor => exact .ok ()
    | loadCursor => exact .ok none
    | highWater => exact .ok 0
    | historySince account position => exact .ok ⟨[], position⟩
  let setting : Setting := ⟨8, fun _ => .ok (), account⟩
  have hfits : rule.Fits event := ⟨rfl, by decide, by decide⟩
  have hother : ¬ other.Fits event := fun hother => absurd hother.kind_eq (by decide)
  have hjudged := (process_reference setting ⟨⟨5, [("mail:s:d", 3)]⟩, []⟩).judged event [other, rule]
  have hnew : ¬ ∃ last, [("mail:s:d", 3)].lookup "mail:s:d" = some last ∧ 8 - last < 5 := by
    rintro ⟨_, ⟨⟩, hfresh⟩
    exact absurd hfresh (by decide)
  have hheard := mt hjudged.suppressed_iff.1 hnew
  have hkey := (hjudged.recorded hheard).2 "mail:s:d"
  obtain ⟨index, winner, ⟨hat, hwins, -⟩, -, hcalls⟩ :=
    hjudged.matched hheard ⟨rule, by simp, hfits⟩
  obtain rfl | rfl : winner = other ∨ winner = rule := by
    simpa using List.mem_of_getElem? hat
  · exact absurd hwins hother
  · exact ⟨setting, event, other, rule, rfl, by decide, by decide, hfits, hcalls, hkey⟩

end Pipeline

end EventRelay
