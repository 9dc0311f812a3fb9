import EventRelay.Deduplicator
import Mathlib.Data.List.Nodup
import Mathlib.Data.List.Pairwise

namespace EventRelay.Deduplicator

/-- No key has two entries. -/
def Distinct (dedup : Deduplicator) : Prop :=
  (dedup.seen.map Prod.fst).Nodup

theorem distinct_new (ttl : Nat) : (new ttl).Distinct :=
  List.nodup_nil

theorem Distinct.lastSeen?_eq_some_iff {dedup : Deduplicator} (hdistinct : dedup.Distinct)
    {key : String} {time : Nat} :
    dedup.lastSeen? key = some time ↔ (key, time) ∈ dedup.seen := by
  obtain ⟨ttl, seen⟩ := dedup
  simp only [Distinct, lastSeen?] at hdistinct ⊢
  induction seen with
  | nil => simp
  | cons entry rest ih =>
    obtain ⟨other, last⟩ := entry
    rw [List.map_cons, List.nodup_cons] at hdistinct
    by_cases hkey : key = other
    · subst hkey
      have habsent : (key, time) ∉ rest := by
        intro hmem
        exact hdistinct.1 (List.mem_map.2 ⟨(key, time), hmem, rfl⟩)
      simp [habsent, eq_comm]
    · have hother : (key == other) = false := by simpa using hkey
      simp [List.lookup_cons, hother, hkey, ih hdistinct.2]

theorem suppresses_iff_lastSeen? {dedup : Deduplicator} {key : String} {now : Nat} :
    dedup.suppresses key now = true ↔
      ∃ last, dedup.lastSeen? key = some last ∧ now - last < dedup.ttl := by
  simp only [suppresses, Option.any_eq_true, isFresh, decide_eq_true_eq]

/-- A record is found under its own key, and hides nothing of the others. -/
theorem lastSeen?_record (dedup : Deduplicator) (key : String) (now : Nat) (other : String) :
    (dedup.record key now).lastSeen? other =
      if other = key then some now else dedup.lastSeen? other := by
  by_cases hother : other = key
  · subst hother
    simp [lastSeen?, record]
  · have hkey : (other == key) = false := by simpa using hother
    rw [if_neg hother, lastSeen?, record, lastSeen?, List.lookup_cons, hkey]
    generalize dedup.seen = seen
    induction seen with
    | nil => rfl
    | cons entry rest ih =>
      obtain ⟨first, last⟩ := entry
      by_cases hfirst : first = key
      · subst hfirst
        simpa [List.lookup_cons, hkey] using ih
      · simp only [List.filter_cons, bne_iff_ne.2 hfirst, if_true, List.lookup_cons]
        split
        · rfl
        · exact ih

/-- A key is held back exactly when it has an entry younger than the window. -/
theorem Distinct.suppresses_iff {dedup : Deduplicator} (hdistinct : dedup.Distinct)
    {key : String} {now : Nat} :
    dedup.suppresses key now = true ↔
      ∃ last, (key, last) ∈ dedup.seen ∧ now - last < dedup.ttl := by
  simp only [suppresses, Option.any_eq_true, isFresh, decide_eq_true_eq,
    hdistinct.lastSeen?_eq_some_iff]

theorem mem_record_iff {dedup : Deduplicator} {key other : String} {now time : Nat} :
    (other, time) ∈ (dedup.record key now).seen ↔
      (other = key ∧ time = now) ∨ (other ≠ key ∧ (other, time) ∈ dedup.seen) := by
  simp [record, and_comm]

theorem Distinct.record {dedup : Deduplicator} (hdistinct : dedup.Distinct) (key : String)
    (now : Nat) : (dedup.record key now).Distinct := by
  have hkept : ((dedup.seen.filter (·.1 != key)).map Prod.fst).Nodup :=
    hdistinct.sublist (List.filter_sublist.map _)
  simpa [Distinct, Deduplicator.record] using hkept

theorem mem_sweep_iff {dedup : Deduplicator} {key : String} {now time : Nat} :
    (key, time) ∈ (dedup.sweep now).2.seen ↔
      (key, time) ∈ dedup.seen ∧ now - time < dedup.ttl := by
  simp [sweep, isFresh]

theorem Distinct.sweep {dedup : Deduplicator} (hdistinct : dedup.Distinct) (now : Nat) :
    (dedup.sweep now).2.Distinct :=
  hdistinct.sublist (List.filter_sublist.map _)

@[simp] theorem ttl_sweep (dedup : Deduplicator) (now : Nat) : (dedup.sweep now).2.ttl = dedup.ttl :=
  rfl

theorem fst_allow (dedup : Deduplicator) (key : String) (now : Nat) :
    (dedup.allow key now).1 = !dedup.suppresses key now := by
  cases hheld : dedup.suppresses key now <;> simp [allow, hheld]

theorem snd_allow (dedup : Deduplicator) (key : String) (now : Nat) :
    (dedup.allow key now).2 = if dedup.suppresses key now then dedup else dedup.record key now := by
  cases hheld : dedup.suppresses key now <;> simp [allow, hheld]

@[simp] theorem ttl_allow (dedup : Deduplicator) (key : String) (now : Nat) :
    (dedup.allow key now).2.ttl = dedup.ttl := by
  rw [snd_allow]
  split <;> rfl

/-- What the deduplicator has to know of the keys that it let through, given in any order with the times
at which it did. Nothing is asked about times before `floor`: entries that a sweep has forgotten would
have suppressed there. -/
structure Remembers (dedup : Deduplicator) (granted : List (String × Nat)) (floor : Nat) : Prop where
  distinct : dedup.Distinct
  suppresses_iff : ∀ key now, floor ≤ now →
    (dedup.suppresses key now = true ↔ ∃ time, (key, time) ∈ granted ∧ now - time < dedup.ttl)

namespace Remembers

variable {dedup : Deduplicator} {granted : List (String × Nat)} {floor : Nat}

theorem new (ttl : Nat) : (Deduplicator.new ttl).Remembers [] 0 where
  distinct := distinct_new ttl
  suppresses_iff := by
    intro key now _
    simp [suppresses, lastSeen?, Deduplicator.new]

/-- A key is let through exactly when all its earlier grants are as old as the window. -/
theorem allows_iff (hmemory : dedup.Remembers granted floor) (key : String) {now : Nat}
    (hfloor : floor ≤ now) :
    (dedup.allow key now).1 = true ↔ ∀ time, (key, time) ∈ granted → dedup.ttl ≤ now - time := by
  rw [fst_allow, Bool.not_eq_true', ← Bool.not_eq_true, hmemory.suppresses_iff key now hfloor]
  simp

/-- Where a key is let through, its new entry stands for all the older ones: they are no younger. -/
theorem record (hmemory : dedup.Remembers granted floor) {key : String} {now : Nat}
    (hgranted : ∀ time, (key, time) ∈ granted → dedup.ttl ≤ now - time) :
    (dedup.record key now).Remembers (granted ++ [(key, now)]) floor where
  distinct := hmemory.distinct.record key now
  suppresses_iff := by
    intro other later hfloor
    rw [(hmemory.distinct.record key now).suppresses_iff]
    simp only [mem_record_iff, List.mem_append, List.mem_singleton, Prod.mk.injEq]
    by_cases hother : other = key
    · subst hother
      constructor
      · rintro ⟨last, ⟨-, rfl⟩ | ⟨hne, -⟩, hfresh⟩
        · exact ⟨last, .inr ⟨rfl, rfl⟩, hfresh⟩
        · exact absurd rfl hne
      · rintro ⟨time, hgrant | ⟨-, rfl⟩, hfresh⟩
        · have hold := hgranted time hgrant
          have hnewer : later - now < dedup.ttl := by
            change later - time < dedup.ttl at hfresh
            omega
          exact ⟨now, .inl ⟨rfl, rfl⟩, hnewer⟩
        · exact ⟨time, .inl ⟨rfl, rfl⟩, hfresh⟩
    · have hrest := hmemory.suppresses_iff other later hfloor
      rw [hmemory.distinct.suppresses_iff] at hrest
      simpa [hother, Deduplicator.record] using hrest

theorem allow (hmemory : dedup.Remembers granted floor) (key : String) {now : Nat}
    (hfloor : floor ≤ now) :
    (dedup.allow key now).2.Remembers
      (if (dedup.allow key now).1 then granted ++ [(key, now)] else granted) floor := by
  cases hheld : dedup.suppresses key now with
  | true => simpa [fst_allow, snd_allow, hheld] using hmemory
  | false =>
    have hgranted := (hmemory.allows_iff key hfloor).1 (by simp [fst_allow, hheld])
    simpa [fst_allow, snd_allow, hheld] using hmemory.record hgranted

/-- A sweep forgets only what suppresses nothing from its own time on. -/
theorem sweep (hmemory : dedup.Remembers granted floor) (now : Nat) :
    (dedup.sweep now).2.Remembers granted (max floor now) where
  distinct := hmemory.distinct.sweep now
  suppresses_iff := by
    intro key later hfloor
    have hnow : now ≤ later := Nat.le_trans (Nat.le_max_right floor now) hfloor
    have hbefore := hmemory.suppresses_iff key later (by omega)
    rw [ttl_sweep, ← hbefore, (hmemory.distinct.sweep now).suppresses_iff,
      hmemory.distinct.suppresses_iff]
    simp only [mem_sweep_iff, ttl_sweep]
    constructor
    · rintro ⟨last, ⟨hmem, -⟩, hfresh⟩
      exact ⟨last, hmem, hfresh⟩
    · rintro ⟨last, hmem, hfresh⟩
      exact ⟨last, ⟨hmem, Nat.lt_of_le_of_lt (Nat.sub_le_sub_right hnow last) hfresh⟩, hfresh⟩

/-- Less is asked from a later time on. -/
theorem mono (hmemory : dedup.Remembers granted floor) {later : Nat} (hle : floor ≤ later) :
    dedup.Remembers granted later where
  distinct := hmemory.distinct
  suppresses_iff key now hnow := hmemory.suppresses_iff key now (Nat.le_trans hle hnow)

end Remembers

end EventRelay.Deduplicator
