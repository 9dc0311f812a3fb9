import EventRelay.Proofs.Deduplicator.Entries

namespace EventRelay.Deduplicator

/-- What a deduplicator is told to do, at a time that was read before. -/
inductive Operation
  | allow (key : String) (time : Nat)
  | sweep (time : Nat)
  deriving DecidableEq, Repr

namespace Operation

def asksAbout (key : String) : Operation → Bool
  | allow other _ => other == key
  | sweep _ => false

/-- A key is asked about at no earlier time than that of a sweep before. Two questions may go back in
time, and so may two sweeps. -/
def NoLaterSweep : Operation → Operation → Prop
  | sweep swept, allow _ time => swept ≤ time
  | _, _ => True

instance : DecidableRel NoLaterSweep
  | sweep swept, allow _ time => inferInstanceAs (Decidable (swept ≤ time))
  | sweep _, sweep _ => .isTrue trivial
  | allow _ _, _ => .isTrue trivial

end Operation

/-- The questions about one key in a sequence of operations, each with its time and its answer. -/
def answers (dedup : Deduplicator) (key : String) : List Operation → List (Nat × Bool)
  | [] => []
  | .allow other time :: rest =>
    let (allowed, next) := dedup.allow other time
    if other = key then (time, allowed) :: next.answers key rest else next.answers key rest
  | .sweep time :: rest => (dedup.sweep time).2.answers key rest

/-- The times of the questions about one key. -/
def questionTimes (key : String) : List Operation → List Nat
  | [] => []
  | .allow other time :: rest =>
    if other = key then time :: questionTimes key rest else questionTimes key rest
  | .sweep _ :: rest => questionTimes key rest

/-- The rule of one key without any memory but the list of its grants: a question is answered with yes
unless a grant is younger than the window. -/
def window (ttl : Nat) (grants : List Nat) : List Nat → List (Nat × Bool)
  | [] => []
  | time :: rest =>
    if ∀ grant ∈ grants, ttl ≤ time - grant then
      (time, true) :: window ttl (grants ++ [time]) rest
    else (time, false) :: window ttl grants rest

theorem questionTimes_filter (key : String) (operations : List Operation) :
    questionTimes key (operations.filter (·.asksAbout key)) = questionTimes key operations := by
  induction operations with
  | nil => rfl
  | cons operation rest ih =>
    cases operation with
    | sweep time => simpa [Operation.asksAbout, questionTimes] using ih
    | allow other time =>
      by_cases hother : other = key
      · simpa [Operation.asksAbout, questionTimes, hother] using ih
      · simpa [Operation.asksAbout, questionTimes, hother] using ih

/-- A deduplicator answers the questions about one key by the rule of that key alone, whatever it is
told about other keys and whenever it is swept. -/
theorem answers_eq_window (key : String) {operations : List Operation}
    (hsweeps : operations.Pairwise Operation.NoLaterSweep) {dedup : Deduplicator}
    {granted : List (String × Nat)} {floor : Nat} (hmemory : dedup.Remembers granted floor)
    (hfloor : ∀ other time, .allow other time ∈ operations → floor ≤ time)
    {grants : List Nat} (hgrants : ∀ time, time ∈ grants ↔ (key, time) ∈ granted) :
    dedup.answers key operations = window dedup.ttl grants (questionTimes key operations) := by
  induction operations generalizing dedup granted floor grants with
  | nil => rfl
  | cons operation rest ih =>
    rw [List.pairwise_cons] at hsweeps
    have hrest : ∀ other time, .allow other time ∈ rest → floor ≤ time :=
      fun other time hmem => hfloor other time (List.mem_cons_of_mem _ hmem)
    cases operation with
    | sweep swept =>
      have hlater : ∀ other time, .allow other time ∈ rest → max floor swept ≤ time := by
        intro other time hmem
        have hswept : swept ≤ time := hsweeps.1 _ hmem
        exact Nat.max_le.2 ⟨hrest other time hmem, hswept⟩
      exact ih hsweeps.2 (hmemory.sweep swept) hlater hgrants
    | allow other time =>
      have htime : floor ≤ time := hfloor other time List.mem_cons_self
      have hnext := hmemory.allow other htime
      simp only [answers, questionTimes]
      by_cases hother : other = key
      · subst hother
        have hallows := hmemory.allows_iff other htime
        simp only [← hgrants] at hallows
        by_cases hold : ∀ grant ∈ grants, dedup.ttl ≤ time - grant
        · have hyes : (dedup.allow other time).1 = true := hallows.2 hold
          rw [hyes, if_pos rfl] at hnext
          have hgrants' : ∀ earlier, earlier ∈ grants ++ [time] ↔
              (other, earlier) ∈ granted ++ [(other, time)] := by simp [hgrants]
          rw [if_pos rfl, if_pos rfl, window, if_pos hold, hyes, ih hsweeps.2 hnext hrest hgrants',
            ttl_allow]
        · have hno : (dedup.allow other time).1 = false := by
            rw [← Bool.not_eq_true, hallows]
            exact hold
          rw [hno, if_neg Bool.false_ne_true] at hnext
          rw [if_pos rfl, if_pos rfl, window, if_neg hold, hno, ih hsweeps.2 hnext hrest hgrants,
            ttl_allow]
      · have hgrants' : ∀ earlier, earlier ∈ grants ↔ (key, earlier) ∈
            (if (dedup.allow other time).1 then granted ++ [(other, time)] else granted) := by
          intro earlier
          have hkey : key ≠ other := fun heq => hother heq.symm
          split <;> simp [hgrants, hkey]
        simpa [hother] using ih hsweeps.2 hnext hrest hgrants'

/-- An answer is yes exactly when no earlier yes is younger than the window. -/
theorem window_eq_append {ttl : Nat} {grants times : List Nat} {earlier later : List (Nat × Bool)}
    {time : Nat} {allowed : Bool}
    (hsplit : window ttl grants times = earlier ++ (time, allowed) :: later) :
    allowed = true ↔
      ∀ grant, grant ∈ grants ∨ (grant, true) ∈ earlier → ttl ≤ time - grant := by
  induction times generalizing grants earlier with
  | nil => simp [window] at hsplit
  | cons first rest ih =>
    by_cases hold : ∀ grant ∈ grants, ttl ≤ first - grant
    · rw [window, if_pos hold] at hsplit
      cases earlier with
      | nil =>
        simp only [List.nil_append, List.cons.injEq, Prod.mk.injEq] at hsplit
        obtain ⟨⟨rfl, rfl⟩, -⟩ := hsplit
        simpa using hold
      | cons entry before =>
        simp only [List.cons_append, List.cons.injEq] at hsplit
        obtain ⟨rfl, hsplit⟩ := hsplit
        rw [ih hsplit]
        simp [or_assoc, or_comm, or_left_comm]
    · rw [window, if_neg hold] at hsplit
      cases earlier with
      | nil =>
        simp only [List.nil_append, List.cons.injEq, Prod.mk.injEq] at hsplit
        obtain ⟨⟨rfl, rfl⟩, -⟩ := hsplit
        simpa using hold
      | cons entry before =>
        simp only [List.cons_append, List.cons.injEq] at hsplit
        obtain ⟨rfl, hsplit⟩ := hsplit
        simpa using ih hsplit

theorem grant_le_of_mem_window {ttl : Nat} {grants times : List Nat} {time grant : Nat}
    (hyes : (time, true) ∈ window ttl grants times) (hgrant : grant ∈ grants) :
    ttl ≤ time - grant := by
  obtain ⟨earlier, later, hsplit⟩ := List.append_of_mem hyes
  exact (window_eq_append hsplit).1 rfl grant (.inl hgrant)

theorem pairwise_window (ttl : Nat) (grants times : List Nat) :
    (window ttl grants times).Pairwise fun first second =>
      first.2 = true → second.2 = true → ttl ≤ second.1 - first.1 := by
  induction times generalizing grants with
  | nil => exact List.Pairwise.nil
  | cons time rest ih =>
    rw [window]
    split
    · refine List.Pairwise.cons ?_ (ih (grants ++ [time]))
      rintro ⟨later, allowed⟩ hmem - hyes
      have hallowed : allowed = true := hyes
      subst hallowed
      exact grant_le_of_mem_window hmem (by simp)
    · refine List.Pairwise.cons ?_ (ih grants)
      intro second _ hno
      cases hno

/-- Questions that were answered with no might as well not have been asked. -/
theorem window_of_granted (ttl : Nat) (grants times : List Nat) :
    window ttl grants (((window ttl grants times).filter (·.2)).map (·.1)) =
      (window ttl grants times).filter (·.2) := by
  induction times generalizing grants with
  | nil => rfl
  | cons time rest ih =>
    by_cases hold : ∀ grant ∈ grants, ttl ≤ time - grant
    · rw [window, if_pos hold, List.filter_cons_of_pos rfl, List.map_cons, window, if_pos hold, ih]
    · rw [window, if_neg hold, List.filter_cons_of_neg Bool.false_ne_true, ih]

theorem answers_new (ttl : Nat) (key : String) {operations : List Operation}
    (hsweeps : operations.Pairwise Operation.NoLaterSweep) :
    (new ttl).answers key operations = window ttl [] (questionTimes key operations) :=
  answers_eq_window key hsweeps (Remembers.new ttl) (fun _ _ _ => Nat.zero_le _) (by simp)

theorem questionTimes_map_allow (key : String) (times : List Nat) :
    questionTimes key (times.map (.allow key)) = times := by
  induction times with
  | nil => rfl
  | cons time rest ih => simp [questionTimes, ih]

theorem pairwise_noLaterSweep_map_allow (key : String) (times : List Nat) :
    (times.map (Operation.allow key)).Pairwise Operation.NoLaterSweep := by
  rw [List.pairwise_map]
  exact List.pairwise_of_forall fun _ _ => trivial

theorem pairwise_noLaterSweep_filter (key : String) (operations : List Operation) :
    (operations.filter (·.asksAbout key)).Pairwise Operation.NoLaterSweep := by
  refine List.pairwise_of_forall_mem_list ?_
  intro first hfirst second _
  cases first with
  | allow other time => trivial
  | sweep time => simp [Operation.asksAbout] at hfirst

/-- Sweeps and other keys make no difference to the answers about a key, as long as no question goes
back behind a sweep. A question is answered with no exactly when an earlier yes is younger than the
window, so a no never extends the window: dropping the questions that it answered changes no other
answer. Any two yeses are at least the window apart, also when the times of the questions go back. -/
theorem answers_eq_without_sweeps (ttl : Nat) (key : String) (operations : List Operation)
    (hsweeps : operations.Pairwise Operation.NoLaterSweep) :
    let answers := (new ttl).answers key operations
    answers = (new ttl).answers key (operations.filter (·.asksAbout key)) ∧
    (∀ earlier time allowed later, answers = earlier ++ (time, allowed) :: later →
      (allowed = true ↔ ¬ ∃ grant, (grant, true) ∈ earlier ∧ time - grant < ttl)) ∧
    (new ttl).answers key (((answers.filter (·.2)).map (·.1)).map (.allow key)) =
      answers.filter (·.2) ∧
    answers.Pairwise fun first second =>
      first.2 = true → second.2 = true → ttl ≤ second.1 - first.1 := by
  intro answers
  have hwindow : answers = window ttl [] (questionTimes key operations) :=
    answers_new ttl key hsweeps
  refine ⟨?_, ?_, ?_, ?_⟩
  · rw [hwindow, answers_new ttl key (pairwise_noLaterSweep_filter key operations),
      questionTimes_filter]
  · intro earlier time allowed later hsplit
    rw [hwindow] at hsplit
    rw [window_eq_append hsplit]
    simp
  · rw [answers_new ttl key (pairwise_noLaterSweep_map_allow key _), questionTimes_map_allow, hwindow]
    exact window_of_granted ttl [] (questionTimes key operations)
  · rw [hwindow]
    exact pairwise_window ttl [] (questionTimes key operations)

/-- A window of ten that is swept at its end, with a second key in between and a sweep that comes from
before. -/
theorem answers_eq_without_sweeps_at_boundary :
    let operations : List Operation :=
      [.allow "k" 0, .allow "j" 4, .allow "k" 9, .sweep 10, .sweep 7, .allow "k" 10, .allow "k" 12]
    operations.Pairwise Operation.NoLaterSweep ∧
      (new 10).answers "k" operations = [(0, true), (9, false), (10, true), (12, false)] ∧
      (new 10).answers "k" operations =
        (new 10).answers "k" (operations.filter (·.asksAbout "k")) := by
  intro operations
  have hsweeps : operations.Pairwise Operation.NoLaterSweep := by decide
  exact ⟨hsweeps, by decide, (answers_eq_without_sweeps 10 "k" operations hsweeps).1⟩

end EventRelay.Deduplicator
