import EventRelay.Proofs.Pipeline.Deliveries

namespace EventRelay

namespace Deduplicator

/-- The part of the deduplicator that is about one key. -/
def ofKey (dedup : Deduplicator) (key : String) : Deduplicator :=
  ⟨dedup.ttl, dedup.seen.filter (·.1 == key)⟩

theorem lookup_filter_key (entries : List (String × Nat)) (key : String) :
    (entries.filter (·.1 == key)).lookup key = entries.lookup key := by
  induction entries with
  | nil => rfl
  | cons entry rest ih =>
    obtain ⟨other, time⟩ := entry
    by_cases hother : other = key
    · subst hother
      simp
    · have hkey : (key == other) = false := beq_eq_false_iff_ne.2 (Ne.symm hother)
      simp [List.lookup_cons, hother, hkey, ih]

theorem suppresses_ofKey (dedup : Deduplicator) (key : String) (now : Nat) :
    (dedup.ofKey key).suppresses key now = dedup.suppresses key now := by
  rw [suppresses, suppresses, lastSeen?, lastSeen?, ofKey, lookup_filter_key]
  rfl

theorem ofKey_record (dedup : Deduplicator) (key : String) (now : Nat) :
    (dedup.record key now).ofKey key = ⟨dedup.ttl, [(key, now)]⟩ := by
  simp [record, ofKey, List.filter_filter]

theorem ofKey_record_of_ne (dedup : Deduplicator) {key other : String} (hother : other ≠ key)
    (now : Nat) : (dedup.record other now).ofKey key = dedup.ofKey key := by
  have hkept (entry : String × Nat) : (entry.1 == key && entry.1 != other) = (entry.1 == key) := by
    by_cases hentry : entry.1 = key
    · simp [hentry, Ne.symm hother]
    · simp [hentry]
  simp [record, ofKey, List.filter_filter, hother, hkept]

theorem ofKey_sweep (dedup : Deduplicator) (key : String) (now : Nat) :
    (dedup.sweep now).2.ofKey key = ((dedup.ofKey key).sweep now).2 := by
  simp only [sweep, ofKey, List.filter_filter, Bool.and_comm]
  rfl

theorem ofKey_allow_of_ne (dedup : Deduplicator) {key other : String} (hother : other ≠ key)
    (now : Nat) : (dedup.allow other now).2.ofKey key = dedup.ofKey key := by
  rw [snd_allow]
  split
  · rfl
  · exact ofKey_record_of_ne dedup hother now

/-- Checks of a key ask for nothing but what is known of that key, and change it alike. -/
theorem ofKey_allow_congr {first second : Deduplicator} {key : String}
    (hsame : first.ofKey key = second.ofKey key) (now : Nat) :
    (first.allow key now).2.ofKey key = (second.allow key now).2.ofKey key := by
  have hheld : first.suppresses key now = second.suppresses key now := by
    rw [← suppresses_ofKey first, ← suppresses_ofKey second, hsame]
  have httl : (first.ofKey key).ttl = (second.ofKey key).ttl := by rw [hsame]
  rw [snd_allow, snd_allow, hheld]
  split
  · exact hsame
  · rw [ofKey_record, ofKey_record]
    exact congrArg (Deduplicator.mk · _) httl

end Deduplicator

namespace Pipeline

/-- Whether an occasion can matter to events with a key: sweeps do, and deliveries of such events. -/
def Occasion.concerns (key : String) : Occasion → Bool
  | .delivery _ event _ => event.dedupKey == key
  | .sweep _ => true

namespace Course

theorem dedup_advance_delivery (course : Course) (setting : Setting) (event : Event)
    (rules : List Rule) :
    (course.advance (.delivery setting event rules)).scene.dedup =
      (course.scene.dedup.allow event.dedupKey setting.time).2 := by
  rw [Deduplicator.snd_allow]
  cases hheld : course.scene.dedup.suppresses event.dedupKey setting.time with
  | true => simp [advance, play_process, hheld]
  | false => exact (play_process_of_allowed hheld rules).2

theorem dedup_advance_sweep (course : Course) (setting : Setting) :
    (course.advance (.sweep setting)).scene.dedup =
      (course.scene.dedup.sweep setting.time).2 :=
  rfl

/-- What happens to events with other keys leaves no trace in what is known of a key. -/
theorem ofKey_foldl_filter (key : String) (occasions : List Occasion) {first second : Course}
    (hsame : first.scene.dedup.ofKey key = second.scene.dedup.ofKey key) :
    (occasions.foldl advance first).scene.dedup.ofKey key =
      ((occasions.filter (Occasion.concerns key)).foldl advance second).scene.dedup.ofKey key := by
  induction occasions generalizing first second with
  | nil => exact hsame
  | cons occasion rest ih =>
    rw [List.filter_cons]
    cases occasion with
    | sweep setting =>
      refine ih ?_
      rw [dedup_advance_sweep, dedup_advance_sweep, Deduplicator.ofKey_sweep,
        Deduplicator.ofKey_sweep, hsame]
    | delivery setting event rules =>
      by_cases hkey : event.dedupKey = key
      · rw [if_pos (by simpa [Occasion.concerns] using hkey)]
        refine ih ?_
        subst hkey
        rw [dedup_advance_delivery, dedup_advance_delivery]
        exact Deduplicator.ofKey_allow_congr hsame setting.time
      · rw [if_neg (by simpa [Occasion.concerns] using hkey)]
        refine ih ?_
        rw [dedup_advance_delivery, Deduplicator.ofKey_allow_of_ne _ hkey]
        exact hsame

end Course

theorem fst_play_process_congr {setting : Setting} {first second : Scene} {event : Event}
    (hsame : first.dedup.ofKey event.dedupKey = second.dedup.ofKey event.dedupKey)
    (rules : List Rule) :
    (setting.play (process event rules) first).1 = (setting.play (process event rules) second).1 := by
  have hheld : first.dedup.suppresses event.dedupKey setting.time =
      second.dedup.suppresses event.dedupKey setting.time := by
    rw [← Deduplicator.suppresses_ofKey first.dedup, ← Deduplicator.suppresses_ofKey second.dedup, hsame]
  rw [play_process, play_process, hheld]
  split
  · rfl
  · cases hrule : Rule.findFirst? rules event.kind event.facts with
    | none => rw [play_afterCheck_of_none hrule, play_afterCheck_of_none hrule]
    | some rule => rw [play_afterCheck_of_some hrule, play_afterCheck_of_some hrule]

/-- The outcome of a delivery is the same when all earlier events with other keys are left out. -/
theorem outcome_of_own_key (ttl : Nat) (before : List Occasion) (setting : Setting) (event : Event)
    (rules : List Rule) :
    (setting.play (process event rules) (Course.after ttl before).scene).1 =
      (setting.play (process event rules)
        (Course.after ttl (before.filter (Occasion.concerns event.dedupKey))).scene).1 :=
  fst_play_process_congr (Course.ofKey_foldl_filter event.dedupKey before rfl) rules

/-- The outcome of a delivery is the same when an earlier event with another key is left out. -/
theorem outcome_without_other_key {event other : Event} (hother : other.dedupKey ≠ event.dedupKey)
    (ttl : Nat) (before between : List Occasion) (setting setting' : Setting)
    (rules rules' : List Rule) :
    (setting.play (process event rules)
        (Course.after ttl (before ++ .delivery setting' other rules' :: between)).scene).1 =
      (setting.play (process event rules) (Course.after ttl (before ++ between)).scene).1 := by
  have hfilter : (before ++ .delivery setting' other rules' :: between).filter
      (Occasion.concerns event.dedupKey) =
        (before ++ between).filter (Occasion.concerns event.dedupKey) := by
    rw [List.filter_append, List.filter_append, List.filter_cons_of_neg]
    simpa [Occasion.concerns] using hother
  rw [outcome_of_own_key, outcome_of_own_key ttl (before ++ between), hfilter]

end Pipeline

end EventRelay
