import EventRelay.Proofs.Pipeline.Reference

namespace EventRelay

namespace Deduplicator.Remembers

variable {dedup : Deduplicator} {granted : List (String × Nat)} {floor : Nat}

/-- As `record`, but for a key that is let through at any time, also at one before `floor`. The entry
that is replaced suppresses nothing from `floor` on. -/
theorem record_of_allowed (hmemory : dedup.Remembers granted floor) {key : String} {now : Nat}
    (hallowed : dedup.suppresses key now = false) :
    (dedup.record key now).Remembers (granted ++ [(key, now)]) floor where
  distinct := hmemory.distinct.record key now
  suppresses_iff := by
    intro other later hfloor
    rw [(hmemory.distinct.record key now).suppresses_iff]
    have hbefore := hmemory.suppresses_iff other later hfloor
    rw [hmemory.distinct.suppresses_iff] at hbefore
    simp only [mem_record_iff, List.mem_append, List.mem_singleton, Prod.mk.injEq]
    change _ ↔ ∃ time, _ ∧ later - time < dedup.ttl
    by_cases hother : other = key
    · subst hother
      constructor
      · rintro ⟨last, ⟨-, rfl⟩ | ⟨hne, -⟩, hfresh⟩
        · exact ⟨last, .inr ⟨rfl, rfl⟩, hfresh⟩
        · exact absurd rfl hne
      · rintro ⟨time, hgrant | ⟨-, rfl⟩, hfresh⟩
        · obtain ⟨last, hlast, hyoung⟩ := hbefore.2 ⟨time, hgrant, hfresh⟩
          have hold : ¬ now - last < dedup.ttl := by
            intro hnew
            rw [hmemory.distinct.suppresses_iff.2 ⟨last, hlast, hnew⟩] at hallowed
            cases hallowed
          refine ⟨now, .inl ⟨rfl, rfl⟩, ?_⟩
          change later - now < dedup.ttl
          omega
        · exact ⟨time, .inl ⟨rfl, rfl⟩, hfresh⟩
    · simpa [hother, Deduplicator.record] using hbefore

end Deduplicator.Remembers

namespace Pipeline

/-- A time at which the gateway gives one reply to all actions. No account has a mailbox. -/
def settingAt (time : Nat) (reply : Except GatewayError Unit) : Setting where
  time := time
  gateway _ := reply
  account
    | .now | .sweep _ => time
    | .allow _ _ => false
    | .deliver _ => reply
    | .loadCursor _ => .ok none
    | .saveCursor _ _ => .ok ()
    | .highWater account | .historySince account _ => .error (.unauthorized account)

/-- Something that happens to the pipeline: an event is delivered, with the rules for it, or the
deduplicator is swept. Each has its own setting. -/
inductive Occasion
  | delivery (setting : Setting) (event : Event) (rules : List Rule)
  | sweep (setting : Setting)

/-- An event that was delivered, with the time of its check and what became of it. -/
structure Delivered where
  event : Event
  time : Nat
  outcome : Outcome

/-- The deduplicator let the event through. What happened to it afterwards makes no difference. -/
def Delivered.LetThrough (delivered : Delivered) : Prop :=
  delivered.outcome ≠ .suppressed

instance (delivered : Delivered) : Decidable delivered.LetThrough :=
  inferInstanceAs (Decidable (delivered.outcome ≠ .suppressed))

/-- All that was delivered so far, in order, and the scene that it left. -/
structure Course where
  delivered : List Delivered
  scene : Scene

/-- What is done to an event that is let through leaves the deduplicator alone, and its outcome tells
that it was let through. -/
theorem play_process_of_allowed {setting : Setting} {scene : Scene} {event : Event}
    (hallowed : scene.dedup.suppresses event.dedupKey setting.time = false) (rules : List Rule) :
    (setting.play (process event rules) scene).1 ≠ .suppressed ∧
      (setting.play (process event rules) scene).2.dedup =
        scene.dedup.record event.dedupKey setting.time := by
  rw [play_process, hallowed, if_neg Bool.false_ne_true]
  cases hrule : Rule.findFirst? rules event.kind event.facts with
  | none =>
    rw [play_afterCheck_of_none hrule]
    exact ⟨nofun, rfl⟩
  | some rule =>
    rw [play_afterCheck_of_some hrule]
    exact ⟨afterReply_ne_suppressed _, rfl⟩

namespace Course

def initial (ttl : Nat) : Course :=
  ⟨[], ⟨.new ttl, []⟩⟩

/-- Deliveries and sweeps take their turns one after the other. Nothing is said about their times: a
clock that was read before a turn may show less than at the turn before it. -/
def advance (course : Course) : Occasion → Course
  | .delivery setting event rules =>
    let (outcome, scene) := setting.play (process event rules) course.scene
    ⟨course.delivered ++ [⟨event, setting.time, outcome⟩], scene⟩
  | .sweep setting => ⟨course.delivered, (setting.play RelayM.sweep course.scene).2⟩

def after (ttl : Nat) (occasions : List Occasion) : Course :=
  occasions.foldl advance (initial ttl)

/-- The keys that were let through, with the times of their checks. -/
def grants (course : Course) : List (String × Nat) :=
  (course.delivered.filter (·.LetThrough)).map fun delivered =>
    (delivered.event.dedupKey, delivered.time)

theorem mem_grants_iff {course : Course} {key : String} {time : Nat} :
    (key, time) ∈ course.grants ↔ ∃ delivered ∈ course.delivered, delivered.LetThrough ∧
      delivered.event.dedupKey = key ∧ delivered.time = time := by
  simp [grants, and_assoc]

/-- What is kept from turn to turn. No sweep so far was later than `floor`. -/
structure Sound (ttl floor : Nat) (course : Course) : Prop where
  ttl_eq : course.scene.dedup.ttl = ttl
  remembers : course.scene.dedup.Remembers course.grants floor
  granted : course.scene.dedup.seen ⊆ course.grants

variable {ttl floor : Nat} {course : Course}

theorem sound_initial (ttl floor : Nat) : (initial ttl).Sound ttl floor :=
  ⟨rfl, (Deduplicator.Remembers.new ttl).mono (Nat.zero_le floor), List.nil_subset _⟩

theorem Sound.delivery (hsound : course.Sound ttl floor) (setting : Setting) (event : Event)
    (rules : List Rule) : (course.advance (.delivery setting event rules)).Sound ttl floor := by
  cases hheld : course.scene.dedup.suppresses event.dedupKey setting.time with
  | true =>
    have hgrants : (course.advance (.delivery setting event rules)).grants = course.grants := by
      simp [advance, grants, play_process, hheld, Delivered.LetThrough]
    have hscene : (course.advance (.delivery setting event rules)).scene = course.scene := by
      simp [advance, play_process, hheld]
    refine ⟨?_, ?_, ?_⟩
    · rw [hscene]
      exact hsound.ttl_eq
    · rw [hscene, hgrants]
      exact hsound.remembers
    · rw [hscene, hgrants]
      exact hsound.granted
  | false =>
    have hplayed := play_process_of_allowed hheld rules
    have hgrants : (course.advance (.delivery setting event rules)).grants =
        course.grants ++ [(event.dedupKey, setting.time)] := by
      simp [advance, grants, Delivered.LetThrough, hplayed.1]
    have hdedup : (course.advance (.delivery setting event rules)).scene.dedup =
        course.scene.dedup.record event.dedupKey setting.time := hplayed.2
    refine ⟨?_, ?_, ?_⟩
    · rw [hdedup]
      exact hsound.ttl_eq
    · rw [hdedup, hgrants]
      exact hsound.remembers.record_of_allowed hheld
    · rw [hdedup, hgrants]
      rintro ⟨key, time⟩ hmem
      obtain ⟨rfl, rfl⟩ | ⟨-, hmem⟩ := Deduplicator.mem_record_iff.1 hmem
      · exact List.mem_append_right _ (List.mem_singleton_self _)
      · exact List.mem_append_left _ (hsound.granted hmem)

theorem Sound.sweep (hsound : course.Sound ttl floor) {setting : Setting}
    (hfloor : setting.time ≤ floor) : (course.advance (.sweep setting)).Sound ttl floor where
  ttl_eq := hsound.ttl_eq
  remembers := by
    have hswept := hsound.remembers.sweep setting.time
    rwa [Nat.max_eq_left hfloor] at hswept
  granted := by
    rintro ⟨key, time⟩ hmem
    exact hsound.granted (Deduplicator.mem_sweep_iff.1 hmem).1

theorem sound_foldl {occasions : List Occasion}
    (hsweeps : ∀ setting, .sweep setting ∈ occasions → setting.time ≤ floor)
    (hsound : course.Sound ttl floor) : (occasions.foldl advance course).Sound ttl floor := by
  induction occasions generalizing course with
  | nil => exact hsound
  | cons occasion rest ih =>
    have hrest : ∀ setting, .sweep setting ∈ rest → setting.time ≤ floor :=
      fun setting hmem => hsweeps setting (List.mem_cons_of_mem _ hmem)
    cases occasion with
    | delivery setting event rules => exact ih hrest (hsound.delivery setting event rules)
    | sweep setting => exact ih hrest (hsound.sweep (hsweeps setting List.mem_cons_self))

theorem after_sound {occasions : List Occasion}
    (hsweeps : ∀ setting, .sweep setting ∈ occasions → setting.time ≤ floor) :
    (after ttl occasions).Sound ttl floor :=
  sound_foldl hsweeps (sound_initial ttl floor)

theorem exists_floor (occasions : List Occasion) :
    ∃ floor, ∀ setting, .sweep setting ∈ occasions → setting.time ≤ floor := by
  induction occasions with
  | nil => exact ⟨0, by simp⟩
  | cons occasion rest ih =>
    obtain ⟨floor, hrest⟩ := ih
    cases occasion with
    | delivery setting event rules => exact ⟨floor, by simpa using hrest⟩
    | sweep setting =>
      refine ⟨max setting.time floor, ?_⟩
      intro other hmem
      obtain heq | hmem := List.mem_cons.1 hmem
      · cases heq
        exact Nat.le_max_left _ _
      · exact Nat.le_trans (hrest other hmem) (Nat.le_max_right _ _)

/-- A key was let through less than the window ago. -/
def HoldsBack (course : Course) (ttl : Nat) (key : String) (now : Nat) : Prop :=
  ∃ earlier ∈ course.delivered, earlier.LetThrough ∧ earlier.event.dedupKey = key ∧
    now - earlier.time < ttl

theorem Sound.holdsBack_of_suppresses (hsound : course.Sound ttl floor) {key : String} {now : Nat}
    (hheld : course.scene.dedup.suppresses key now = true) : course.HoldsBack ttl key now := by
  obtain ⟨last, hlast, hfresh⟩ := hsound.remembers.distinct.suppresses_iff.1 hheld
  obtain ⟨earlier, hmem, hlet, hkey, rfl⟩ := mem_grants_iff.1 (hsound.granted hlast)
  rw [hsound.ttl_eq] at hfresh
  exact ⟨earlier, hmem, hlet, hkey, hfresh⟩

theorem Sound.suppresses_of_holdsBack (hsound : course.Sound ttl floor) {key : String} {now : Nat}
    (hfloor : floor ≤ now) (hholds : course.HoldsBack ttl key now) :
    course.scene.dedup.suppresses key now = true := by
  obtain ⟨earlier, hmem, hlet, hkey, hfresh⟩ := hholds
  rw [hsound.remembers.suppresses_iff key now hfloor, hsound.ttl_eq]
  exact ⟨earlier.time, mem_grants_iff.2 ⟨earlier, hmem, hlet, hkey, rfl⟩, hfresh⟩

end Course

/-- What a delivery comes to, after all that happened before it. -/
structure Explained (ttl : Nat) (before : List Occasion) (setting : Setting) (event : Event)
    (rules : List Rule) (outcome : Outcome) (calls : List Action) : Prop where
  /-- Of the events that were let through before, those that failed or had no rule hold back others as
  well as those that were dispatched. -/
  held_back : outcome = .suppressed →
    (Course.after ttl before).HoldsBack ttl event.dedupKey setting.time
  suppressed : (∀ sweep, .sweep sweep ∈ before → sweep.time ≤ setting.time) →
    (Course.after ttl before).HoldsBack ttl event.dedupKey setting.time → outcome = .suppressed
  unmatched : ¬ (Course.after ttl before).HoldsBack ttl event.dedupKey setting.time →
    (∀ rule ∈ rules, ¬ rule.Fits event) →
      outcome = .noMatch ∧ calls = (Course.after ttl before).scene.calls
  matched : ¬ (Course.after ttl before).HoldsBack ttl event.dedupKey setting.time →
    (∃ rule ∈ rules, rule.Fits event) → ∃ index rule, Rule.Decides rules event index rule ∧
      outcome = afterReply (setting.gateway (rule.actionFor event)) ∧
      calls = (Course.after ttl before).scene.calls ++ [rule.actionFor event]

/-- Over every run, an event is suppressed only where an earlier one with its key was let through less
than the window before, whatever became of that one. Unless the clock was read before an earlier sweep
read it, it is suppressed exactly there. Everywhere else it is passed to the gateway if a rule fits it,
also after failures. -/
theorem delivery_explained (ttl : Nat) (before : List Occasion) (setting : Setting) (event : Event)
    (rules : List Rule) :
    Explained ttl before setting event rules
      (setting.play (process event rules) (Course.after ttl before).scene).1
      (setting.play (process event rules) (Course.after ttl before).scene).2.calls := by
  have hjudged := play_process_judged setting (Course.after ttl before).scene event rules
  have hheld : (setting.play (process event rules) (Course.after ttl before).scene).1 = .suppressed →
      (Course.after ttl before).HoldsBack ttl event.dedupKey setting.time := by
    intro hsuppressed
    obtain ⟨floor, hfloor⟩ := Course.exists_floor before
    have hrecent := hjudged.suppressed_iff.1 hsuppressed
    exact (Course.after_sound hfloor).holdsBack_of_suppresses
      (Deduplicator.suppresses_iff_lastSeen?.2 hrecent)
  refine ⟨hheld, ?_, ?_, ?_⟩
  · intro hsweeps hholds
    have hsuppresses := (Course.after_sound hsweeps).suppresses_of_holdsBack (Nat.le_refl _) hholds
    exact hjudged.suppressed_iff.2 (Deduplicator.suppresses_iff_lastSeen?.1 hsuppresses)
  · intro hfree hnone
    exact hjudged.unmatched (mt hheld hfree) hnone
  · intro hfree hsome
    exact hjudged.matched (mt hheld hfree) hsome

/-- A card that is moved to a list without a rule is not heard of when it is moved to one that has a
rule: the first move held back the second, and nothing was dispatched. -/
theorem not_forall_suppressed_after_dispatched :
    ¬ ∀ (ttl : Nat) (before : List Occasion) (setting : Setting) (event : Event) (rules : List Rule),
      (setting.play (process event rules) (Course.after ttl before).scene).1 = .suppressed →
        ∃ earlier ∈ (Course.after ttl before).delivered, earlier.event.dedupKey = event.dedupKey ∧
          setting.time - earlier.time < ttl ∧ earlier.outcome = .dispatched := by
  intro hdispatched
  let moved (list : String) : Event :=
    ⟨.cardMove, "card_moved", "c1", "updateCard", "", ⟨[("list", list)]⟩, ⟨[]⟩⟩
  let ready : Rule := ⟨"", "card_moved", ⟨[.equals "list" "ready"]⟩, .anything, .unset⟩
  let before : List Occasion := [.delivery (settingAt 0 (.ok ())) (moved "dev") [ready]]
  have hsuppressed : ((settingAt 1000 (.ok ())).play (process (moved "ready") [ready])
      (Course.after 300000 before).scene).1 = .suppressed := by decide
  obtain ⟨earlier, hmem, -, -, houtcome⟩ := hdispatched 300000 before _ _ _ hsuppressed
  have hunmatched : ∀ earlier ∈ (Course.after 300000 before).delivered,
      earlier.outcome = .noMatch := by decide
  rw [hunmatched earlier hmem] at houtcome
  cases houtcome

/-- An action that the gateway did not take is not tried again within the window. -/
example :
    let event : Event := ⟨.comment, "comment_added", "c1", "commentCard", "", ⟨[]⟩, ⟨[]⟩⟩
    let rule : Rule := ⟨"", "comment_added", .always, .anything, .unset⟩
    let failing : Except GatewayError Unit := .error (.request "timed out")
    (Course.after 5 [.delivery (settingAt 0 failing) event [rule],
        .delivery (settingAt 4 (.ok ())) event [rule],
        .delivery (settingAt 5 (.ok ())) event [rule]]).delivered.map (·.outcome) =
      [.dispatchFailed, .suppressed, .dispatched] := by
  decide

end Pipeline

end EventRelay
