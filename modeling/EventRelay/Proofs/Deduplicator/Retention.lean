import EventRelay.Proofs.Deduplicator.Window

namespace EventRelay.Deduplicator

namespace Operation

def time : Operation → Nat
  | allow _ time | sweep time => time

end Operation

/-- What an operation leaves. -/
def perform (dedup : Deduplicator) : Operation → Deduplicator
  | .allow key time => (dedup.allow key time).2
  | .sweep time => (dedup.sweep time).2

/-- What operations leave that are done one after the other. -/
def after (dedup : Deduplicator) (operations : List Operation) : Deduplicator :=
  operations.foldl perform dedup

/-- The time of an operation if it lets a key through. -/
def grant (dedup : Deduplicator) (key : String) : Operation → List Nat
  | .allow other time => if other = key ∧ (dedup.allow other time).1 = true then [time] else []
  | .sweep _ => []

/-- The times at which a key was let through. -/
def grantTimes (dedup : Deduplicator) (key : String) (operations : List Operation) : List Nat :=
  ((dedup.answers key operations).filter (·.2)).map (·.1)

variable {dedup : Deduplicator} {operation : Operation} {operations : List Operation}
  {key : String} {time : Nat}

@[simp] theorem ttl_perform (dedup : Deduplicator) (operation : Operation) :
    (dedup.perform operation).ttl = dedup.ttl := by
  cases operation with
  | allow key time => exact ttl_allow dedup key time
  | sweep time => rfl

@[simp] theorem ttl_after (dedup : Deduplicator) (operations : List Operation) :
    (dedup.after operations).ttl = dedup.ttl := by
  induction operations generalizing dedup with
  | nil => rfl
  | cons operation rest ih => exact (ih _).trans (ttl_perform dedup operation)

theorem Distinct.perform (hdistinct : dedup.Distinct) (operation : Operation) :
    (dedup.perform operation).Distinct := by
  cases operation with
  | allow key time =>
    rw [Deduplicator.perform, snd_allow]
    split
    · exact hdistinct
    · exact hdistinct.record key time
  | sweep time => exact hdistinct.sweep time

theorem Distinct.after (hdistinct : dedup.Distinct) (operations : List Operation) :
    (dedup.after operations).Distinct := by
  induction operations generalizing dedup with
  | nil => exact hdistinct
  | cons operation rest ih => exact ih (hdistinct.perform operation)

/-- A sweep has kept exactly what was fresh, as it was, and counted the rest. -/
structure Swept (dedup : Deduplicator) (now count : Nat) (swept : Deduplicator) : Prop where
  kept : ∀ key time, (key, time) ∈ swept.seen ↔ (key, time) ∈ dedup.seen ∧ now - time < dedup.ttl
  lastSeen?_eq : ∀ key, swept.lastSeen? key =
    (dedup.lastSeen? key).filter fun time => now - time < dedup.ttl
  counted : count + swept.size = dedup.size

theorem Distinct.swept (hdistinct : dedup.Distinct) (now : Nat) :
    dedup.Swept now (dedup.sweep now).1 (dedup.sweep now).2 where
  kept _ _ := mem_sweep_iff
  lastSeen?_eq := by
    intro key
    refine Option.ext fun time => ?_
    rw [Option.filter_eq_some_iff, (hdistinct.sweep now).lastSeen?_eq_some_iff,
      hdistinct.lastSeen?_eq_some_iff, mem_sweep_iff, decide_eq_true_iff]
  counted := by
    have hle : (dedup.sweep now).2.size ≤ dedup.size := List.length_filter_le _ _
    have hcount : (dedup.sweep now).1 = dedup.size - (dedup.sweep now).2.size := rfl
    omega

theorem grantTimes_cons (dedup : Deduplicator) (key : String) (operation : Operation)
    (rest : List Operation) :
    dedup.grantTimes key (operation :: rest) =
      dedup.grant key operation ++ (dedup.perform operation).grantTimes key rest := by
  cases operation with
  | sweep time => rfl
  | allow other time =>
    by_cases hother : other = key
    · cases hallowed : (dedup.allow other time).1 <;>
        simp [grantTimes, grant, answers, perform, hother ▸ hallowed, hother]
    · simp [grantTimes, grant, answers, perform, hother]

/-- The operation has let the key of an entry through at the entry's time, or it has not let it through
at all and the entry is an old one. -/
theorem grant_of_mem_perform (hmem : (key, time) ∈ (dedup.perform operation).seen) :
    dedup.grant key operation = [time] ∨
      (dedup.grant key operation = [] ∧ (key, time) ∈ dedup.seen) := by
  cases operation with
  | sweep now => exact .inr ⟨rfl, (mem_sweep_iff.1 hmem).1⟩
  | allow other now =>
    cases hheld : dedup.suppresses other now with
    | true =>
      rw [perform, snd_allow, hheld] at hmem
      exact .inr ⟨by simp [grant, fst_allow, hheld], hmem⟩
    | false =>
      rw [perform, snd_allow, hheld] at hmem
      obtain ⟨rfl, rfl⟩ | ⟨hother, hmem⟩ := mem_record_iff.1 hmem
      · exact .inl (by simp [grant, fst_allow, hheld])
      · exact .inr ⟨by simp [grant, Ne.symm hother], hmem⟩

/-- An entry has the time at which its key was last let through. -/
theorem getLast?_grantTimes (hmem : (key, time) ∈ (dedup.after operations).seen) :
    (dedup.grantTimes key operations).getLast? = some time ∨
      (dedup.grantTimes key operations = [] ∧ (key, time) ∈ dedup.seen) := by
  induction operations generalizing dedup with
  | nil => exact .inr ⟨rfl, hmem⟩
  | cons operation rest ih =>
    rw [grantTimes_cons]
    obtain hlast | ⟨hnone, hmem⟩ := ih hmem
    · exact .inl (by rw [List.getLast?_append, hlast, Option.some_or])
    · rw [hnone, List.append_nil]
      obtain hgrant | ⟨hgrant, hmem⟩ := grant_of_mem_perform hmem
      · exact .inl (by rw [hgrant, List.getLast?_singleton])
      · exact .inr ⟨hgrant, hmem⟩

theorem mem_of_mem_grantTimes (hgrant : time ∈ dedup.grantTimes key operations) :
    .allow key time ∈ operations := by
  induction operations generalizing dedup with
  | nil => cases hgrant
  | cons operation rest ih =>
    rw [grantTimes_cons, List.mem_append] at hgrant
    obtain hgrant | hgrant := hgrant
    · cases operation with
      | sweep now => cases hgrant
      | allow other now =>
        rw [grant] at hgrant
        split at hgrant
        case isTrue hallowed =>
          obtain rfl := List.mem_singleton.1 hgrant
          rw [hallowed.1]
          exact List.mem_cons_self
        case isFalse => cases hgrant
    · exact List.mem_cons_of_mem _ (ih hgrant)

/-- An entry is an old one, or its key was let through meanwhile. -/
theorem mem_after (hmem : (key, time) ∈ (dedup.after operations).seen) :
    (key, time) ∈ dedup.seen ∨ .allow key time ∈ operations := by
  obtain hlast | ⟨-, hmem⟩ := getLast?_grantTimes hmem
  · exact .inr (mem_of_mem_grantTimes (List.mem_of_getLast? hlast))
  · exact .inl hmem

/-- An entry that has come past a sweep was younger than the window then. -/
theorem lt_add_ttl_of_mem_after {swept : Nat} (hpositive : 0 < dedup.ttl)
    (hsorted : operations.Pairwise fun first second => first.time ≤ second.time)
    (hsweep : .sweep swept ∈ operations) (hmem : (key, time) ∈ (dedup.after operations).seen) :
    swept < time + dedup.ttl := by
  obtain ⟨before, later, rfl⟩ := List.append_of_mem hsweep
  have hafter : dedup.after (before ++ .sweep swept :: later) =
      (((dedup.after before).sweep swept).2).after later := List.foldl_append
  rw [hafter] at hmem
  obtain hmem | hmem := mem_after hmem
  · have hfresh := (mem_sweep_iff.1 hmem).2
    rw [ttl_after] at hfresh
    omega
  · have hle : swept ≤ time :=
      List.rel_of_pairwise_cons (List.pairwise_append.1 hsorted).2.1 hmem
    omega

/-- What a new deduplicator holds after some operations. -/
structure Retention (ttl : Nat) (operations : List Operation) (dedup : Deduplicator) : Prop where
  swept : ∀ now, dedup.Swept now (dedup.sweep now).1 (dedup.sweep now).2
  distinct : dedup.Distinct
  latest : ∀ key time, (key, time) ∈ dedup.seen →
    ((new ttl).grantTimes key operations).getLast? = some time
  /-- With a clock that does not go back and with the sweeps in the background, no entry grows older
  than three windows. There may be other sweeps as well. -/
  bounded : 0 < ttl → operations.Pairwise (fun first second => first.time ≤ second.time) →
    ∀ now, (∀ operation ∈ operations, operation.time ≤ now) →
      (∀ n, 0 < n → n * dedup.sweepInterval ≤ now →
        .sweep (n * dedup.sweepInterval) ∈ operations) →
      ∀ key time, (key, time) ∈ dedup.seen → now - time < 3 * ttl

/-- Sweeps forget exactly what suppresses no more, and they come often enough. -/
theorem after_retention (ttl : Nat) (operations : List Operation) :
    Retention ttl operations ((new ttl).after operations) where
  swept := ((distinct_new ttl).after operations).swept
  distinct := (distinct_new ttl).after operations
  latest := by
    intro key time hmem
    obtain hlast | ⟨-, hnone⟩ := getLast?_grantTimes hmem
    · exact hlast
    · cases hnone
  bounded := by
    intro hpositive hsorted now hpast hsweeps key time hmem
    have hinterval : ((new ttl).after operations).sweepInterval = 2 * ttl := by
      rw [sweepInterval, ttl_after]
      rfl
    rw [hinterval] at hsweeps
    -- The last sweep that was due is less than two windows ago.
    have hlast := Nat.div_add_mod now (2 * ttl)
    have hrest : now % (2 * ttl) < 2 * ttl := Nat.mod_lt _ (by omega)
    obtain hnone | hsome := Nat.eq_zero_or_pos (now / (2 * ttl))
    · rw [hnone, Nat.mul_zero] at hlast
      omega
    · have hsweep := hsweeps (now / (2 * ttl)) hsome (Nat.div_mul_le_self _ _)
      rw [Nat.mul_comm] at hsweep
      have httl : (new ttl).ttl = ttl := rfl
      have hfresh := lt_add_ttl_of_mem_after (httl.symm ▸ hpositive) hsorted hsweep hmem
      omega

/-- An entry that is just too young for the first sweep, shortly before the second. -/
theorem after_retention_before_sweep :
    let operations : List Operation := [.allow "a" 0, .allow "b" 11, .sweep 20, .allow "b" 20]
    let dedup := (new 10).after operations
    operations.Pairwise (fun first second => first.time ≤ second.time) ∧
      (∀ operation ∈ operations, operation.time ≤ 39) ∧
      (∀ n, 0 < n → n * dedup.sweepInterval ≤ 39 → .sweep (n * dedup.sweepInterval) ∈ operations) ∧
      dedup.seen = [("b", 11)] ∧ Retention 10 operations dedup ∧ 39 - 11 < 3 * 10 := by
  intro operations dedup
  have hsorted : operations.Pairwise fun first second => first.time ≤ second.time := by decide
  have hpast : ∀ operation ∈ operations, operation.time ≤ 39 := by decide
  have hsweeps : ∀ n, 0 < n → n * dedup.sweepInterval ≤ 39 →
      .sweep (n * dedup.sweepInterval) ∈ operations := by
    intro n hpositive hle
    have hinterval : dedup.sweepInterval = 20 := by decide
    rw [hinterval] at hle ⊢
    obtain rfl : n = 1 := by omega
    decide
  have hretention := after_retention 10 operations
  exact ⟨hsorted, hpast, hsweeps, by decide, hretention,
    hretention.bounded (by decide) hsorted 39 hpast hsweeps "b" 11 (by decide)⟩

end EventRelay.Deduplicator
