import EventRelay.Json.Value
import EventRelay.Proofs.Pipeline.OwnKey
import EventRelay.Proofs.Text.Decimal
import Mathlib.Data.List.Basic

namespace EventRelay.GitHub

open Json Pipeline

namespace Occurrence

theorem ofTag?_eq_some_iff {tag : String} {occurrence : Occurrence} :
    ofTag? tag = some occurrence ↔ tag = occurrence.tag := by
  constructor
  · intro hfound
    have htag := List.find?_some (p := fun other : Occurrence => other.tag == tag) hfound
    exact (beq_iff_eq.1 htag).symm
  · rintro rfl
    cases occurrence <;> decide

theorem tag_inj {first second : Occurrence} : first.tag = second.tag ↔ first = second := by
  cases first <;> cases second <;> decide

theorem colon_notMem_tag (occurrence : Occurrence) : ':' ∉ occurrence.tag.toList := by
  cases occurrence <;> decide

end Occurrence

theorem colon_notMem_natText (n : Nat) : ':' ∉ (Text.natText n).toList := by
  intro hmem
  have hdigit := Text.isDigit_of_mem_natText hmem
  revert hdigit
  decide

/-- The key holds the number of the pull request and the occurrence, and nothing else of a call. -/
theorem Call.dedupKey_eq_iff {call call' : Call} {occurrence occurrence' : Occurrence} :
    (call.toEvent occurrence).dedupKey = (call'.toEvent occurrence').dedupKey ↔
      occurrence = occurrence' ∧ call.pullRequestNumber = call'.pullRequestNumber := by
  constructor
  · intro hkey
    have hlists := congrArg String.toList hkey
    simp only [Event.dedupKey, toEvent, String.toList_append, List.append_assoc,
      List.append_cancel_left_eq] at hlists
    obtain ⟨hnumber, -, htag⟩ := (List.append_cons_inj_of_notMem
      (colon_notMem_natText _) occurrence.colon_notMem_tag).1 hlists
    refine ⟨Occurrence.tag_inj.1 (String.toList_inj.1 htag), UInt64.toNat_inj.1 ?_⟩
    exact Text.natText_injective (String.toList_inj.1 hnumber)
  · rintro ⟨rfl, hnumber⟩
    simp only [Event.dedupKey, toEvent, hnumber]

theorem event?_eq {tag : String} {occurrence : Occurrence} {body : List UInt8} {call : Call}
    (htag : Occurrence.ofTag? tag = some occurrence) (hcall : Call.decoder.run body = .ok call)
    (mode : NotifyMode) : event? tag mode body = call.event? occurrence mode := by
  simp only [event?, htag, hcall]

/-- A call that makes an event is about a known occurrence. -/
theorem exists_of_event? {tag : String} {mode : NotifyMode} {body : List UInt8} {call : Call}
    {event : Event} (hevent : event? tag mode body = some event)
    (hcall : Call.decoder.run body = .ok call) :
    ∃ occurrence : Occurrence, tag = occurrence.tag ∧ event = call.toEvent occurrence := by
  cases htag : Occurrence.ofTag? tag with
  | none =>
    rw [event?, htag] at hevent
    cases hevent
  | some occurrence =>
    rw [event?_eq htag hcall, Call.event?] at hevent
    refine ⟨occurrence, Occurrence.ofTag?_eq_some_iff.1 htag, ?_⟩
    split at hevent
    · cases hevent
    · split at hevent
      · cases hevent
      · exact (Option.some.inj hevent).symm

/-- What two calls that make events have to do with each other. -/
structure Scoped (ingest : PushIngest) (tag tag' : String) (body : List UInt8) (call call' : Call)
    (event event' : Event) : Prop where
  /-- The events have one key exactly if they are of one type and about one number. The repositories
  make no difference, and calls about no pull request have the number zero. -/
  dedupKey_eq_iff : event.dedupKey = event'.dedupKey ↔
    tag = tag' ∧ call.pullRequestNumber = call'.pullRequestNumber
  /-- The call is handled by a delivery of its event. -/
  handled : ∀ (setting : Setting) (scene : Scene),
    setting.play (ingest.handle .github body tag) scene =
      ((setting.play (process event (ingest.rules .github)) scene).1.isDispatched,
        (setting.play (process event (ingest.rules .github)) scene).2)
  /-- If the events have two keys, then whatever else is delivered and however often the deduplicator is
  swept, the one has the outcome that it has without the other. -/
  unaffected : tag ≠ tag' ∨ call.pullRequestNumber ≠ call'.pullRequestNumber →
    ∀ (ttl : Nat) (before between : List Occasion) (setting setting' : Setting)
      (rules rules' : List Rule),
      (setting.play (process event rules)
          (Course.after ttl (before ++ .delivery setting' event' rules' :: between)).scene).1 =
        (setting.play (process event rules) (Course.after ttl (before ++ between)).scene).1

theorem play_handle {ingest : PushIngest} {source : PushSource} {tag : String} {body : List UInt8}
    {event : Event} (hevent : ingest.event? source body tag = some event) (setting : Setting)
    (scene : Scene) :
    setting.play (ingest.handle source body tag) scene =
      ((setting.play (process event (ingest.rules source)) scene).1.isDispatched,
        (setting.play (process event (ingest.rules source)) scene).2) := by
  rw [PushIngest.handle, hevent]
  exact setting.play_bind (process event (ingest.rules source))
    (fun outcome => .done outcome.isDispatched) scene

/-- Calls about two pull requests, or of two types, never hold back each other, whatever is delivered
besides. -/
theorem calls_scoped {ingest : PushIngest} {tag tag' : String} {body body' : List UInt8}
    {call call' : Call} {event event' : Event} (hcall : Call.decoder.run body = .ok call)
    (hcall' : Call.decoder.run body' = .ok call')
    (hevent : event? tag ingest.notifyMode body = some event)
    (hevent' : event? tag' ingest.notifyMode body' = some event') :
    Scoped ingest tag tag' body call call' event event' := by
  have hkeys : event.dedupKey = event'.dedupKey ↔
      tag = tag' ∧ call.pullRequestNumber = call'.pullRequestNumber := by
    obtain ⟨occurrence, rfl, rfl⟩ := exists_of_event? hevent hcall
    obtain ⟨occurrence', rfl, rfl⟩ := exists_of_event? hevent' hcall'
    rw [Call.dedupKey_eq_iff, Occurrence.tag_inj]
  refine ⟨hkeys, play_handle hevent, ?_⟩
  intro hother ttl before between setting setting' rules rules'
  have hne : event'.dedupKey ≠ event.dedupKey := by
    intro hkey
    obtain ⟨htag, hnumber⟩ := hkeys.1 hkey.symm
    exact hother.elim (absurd htag) (absurd hnumber)
  have hfilter : (before ++ .delivery setting' event' rules' :: between).filter
      (Occasion.concerns event.dedupKey) =
        (before ++ between).filter (Occasion.concerns event.dedupKey) := by
    rw [List.filter_append, List.filter_append, List.filter_cons_of_neg]
    simpa [Occasion.concerns] using hne
  rw [outcome_of_own_key, outcome_of_own_key ttl (before ++ between), hfilter]

/-- The body of a call about a check run that has ended. -/
def checkBody (repository : String) (number : Nat) : List UInt8 :=
  (Value.object
    [("action", .string "completed"), ("repository", .object [("full_name", .string repository)]),
     ("check_run", .object [("pull_requests", .array [.object [("number", .natural number)]])])]).bytes

def checkCall (repository : String) (number : UInt64) : Call :=
  ⟨"completed", repository, .blank, ⟨none, [⟨number, ""⟩]⟩, .blank⟩

theorem run_checkBody : Call.decoder.run (checkBody "org/one" 7) = .ok (checkCall "org/one" 7) := by
  decide +kernel

theorem event?_checkBody {repository : String} {number : Nat} {number' : UInt64}
    (hcall : Call.decoder.run (checkBody repository number) = .ok (checkCall repository number')) :
    event? "check_run" .all (checkBody repository number) =
      some ((checkCall repository number').toEvent .checkRun) := by
  have htag : Occurrence.ofTag? "check_run" = some .checkRun := by decide
  rw [event?_eq htag hcall]
  rfl

/-- Two pull requests of one repository. -/
theorem calls_scoped_of_numbers : ∃ (call call' : Call) (event event' : Event),
    Scoped (.new .empty [] .all) "check_run" "check_run" (checkBody "org/one" 7) call call' event
        event' ∧
      call.repository = call'.repository ∧ event.dedupKey ≠ event'.dedupKey := by
  have hcall : Call.decoder.run (checkBody "org/one" 8) = .ok (checkCall "org/one" 8) := by
    decide +kernel
  have hscoped : Scoped (.new .empty [] .all) _ _ _ _ _ _ _ :=
    calls_scoped run_checkBody hcall (event?_checkBody run_checkBody) (event?_checkBody hcall)
  refine ⟨checkCall "org/one" 7, checkCall "org/one" 8, _, _, hscoped, rfl, fun hkey => ?_⟩
  exact absurd (hscoped.dedupKey_eq_iff.1 hkey).2 (by decide)

/-- A check in one repository holds back the report of one in another, as both are about a pull request
with the number seven. -/
theorem exists_suppressed_by_other_repository : ∃ (call call' : Call) (event event' : Event),
    Call.decoder.run (checkBody "org/one" 7) = .ok call ∧
      Call.decoder.run (checkBody "org/two" 7) = .ok call' ∧
      event? "check_run" .all (checkBody "org/one" 7) = some event ∧
      event? "check_run" .all (checkBody "org/two" 7) = some event' ∧
      call.repository ≠ call'.repository ∧ event.dedupKey = event'.dedupKey ∧
      ((settingAt 1 (.ok ())).play (process event' defaultRules)
        (Course.after 300000 [.delivery (settingAt 0 (.ok ())) event defaultRules]).scene).1 =
          .suppressed ∧
      ((settingAt 1 (.ok ())).play (process event' defaultRules)
        (Course.after 300000 []).scene).1 = .dispatched := by
  have hcall : Call.decoder.run (checkBody "org/two" 7) = .ok (checkCall "org/two" 7) := by
    decide +kernel
  refine ⟨checkCall "org/one" 7, checkCall "org/two" 7, _, _, run_checkBody, hcall,
    event?_checkBody run_checkBody, event?_checkBody hcall, by decide, by decide, ?_, ?_⟩
  · decide +kernel
  · decide +kernel

end EventRelay.GitHub
