import EventRelay.Effect
import EventRelay.Proofs.Deduplicator.Entries

namespace EventRelay.Deduplicator

open scoped List

/-- What one of several callers is there for. -/
inductive Call
  | allow (key : String)
  | sweep

def Call.work : Call → RelayM Unit
  | allow key => (RelayM.allow key).bind fun _ => .done ()
  | sweep => RelayM.sweep.bind fun _ => .done ()

/-- What callers of one deduplicator do: first they read the clock, and when their turn comes the
deduplicator is asked with that reading. Callers are numbered in the order in which they come. -/
inductive Happening
  | read (caller : Nat) (time : Nat)
  | allow (caller : Nat) (key : String) (time : Nat) (allowed : Bool)
  | sweep (caller : Nat) (time : Nat)
  deriving DecidableEq, Repr

/-- A clock and a deduplicator that callers share, what is left to do for each of them, and everything
that happened, in order. -/
structure Race where
  clock : Nat
  dedup : Deduplicator
  callers : List (RelayM Unit)
  history : List Happening

namespace Race

/-- The steps of a race. Time passes and callers come whenever they like. Only the clock is known not to
go back: in what order callers take their turns has nothing to do with the order of their readings. -/
inductive Step : Race → Race → Prop
  | pass {clock : Nat} {dedup : Deduplicator} {callers : List (RelayM Unit)}
      {history : List Happening} (later : Nat) (hlater : clock ≤ later) :
      Step ⟨clock, dedup, callers, history⟩ ⟨later, dedup, callers, history⟩
  | come {clock : Nat} {dedup : Deduplicator} {callers : List (RelayM Unit)}
      {history : List Happening} (call : Call) :
      Step ⟨clock, dedup, callers, history⟩ ⟨clock, dedup, callers ++ [call.work], history⟩
  | read {clock : Nat} {dedup : Deduplicator} {callers : List (RelayM Unit)}
      {history : List Happening} {caller : Nat} {next : Nat → RelayM Unit}
      (hcaller : callers[caller]? = some (.ask .now next)) :
      Step ⟨clock, dedup, callers, history⟩
        ⟨clock, dedup, callers.set caller (next clock), history ++ [.read caller clock]⟩
  | allow {clock : Nat} {dedup : Deduplicator} {callers : List (RelayM Unit)}
      {history : List Happening} {caller : Nat} {key : String} {time : Nat}
      {next : Bool → RelayM Unit} (hcaller : callers[caller]? = some (.ask (.allow key time) next)) :
      Step ⟨clock, dedup, callers, history⟩
        ⟨clock, (dedup.allow key time).2, callers.set caller (next (dedup.allow key time).1),
          history ++ [.allow caller key time (dedup.allow key time).1]⟩
  | sweep {clock : Nat} {dedup : Deduplicator} {callers : List (RelayM Unit)}
      {history : List Happening} {caller : Nat} {time : Nat} {next : Nat → RelayM Unit}
      (hcaller : callers[caller]? = some (.ask (.sweep time) next)) :
      Step ⟨clock, dedup, callers, history⟩
        ⟨clock, (dedup.sweep time).2, callers.set caller (next (dedup.sweep time).1),
          history ++ [.sweep caller time]⟩

inductive Reachable (ttl : Nat) : Race → Prop
  | initial (clock : Nat) : Reachable ttl ⟨clock, .new ttl, [], []⟩
  | step {race race' : Race} (hreachable : Reachable ttl race) (hstep : Step race race') :
      Reachable ttl race'

/-- How far a caller can have come. One that waits for its turn has read the clock. -/
inductive Stage (history : List Happening) (caller : Nat) : RelayM Unit → Prop
  | asking (key : String) :
      Stage history caller (.ask .now fun time => .ask (.allow key time) fun _ => .done ())
  | sweeping : Stage history caller (.ask .now fun time => .ask (.sweep time) fun _ => .done ())
  | askingAt (key : String) {time : Nat} (hread : .read caller time ∈ history) :
      Stage history caller (.ask (.allow key time) fun _ => .done ())
  | sweepingAt {time : Nat} (hread : .read caller time ∈ history) :
      Stage history caller (.ask (.sweep time) fun _ => .done ())
  | served : Stage history caller (.done ())

theorem Stage.mono {history later : List Happening} {caller : Nat} {work : RelayM Unit}
    (hstage : Stage history caller work) (hsub : history ⊆ later) : Stage later caller work := by
  cases hstage with
  | asking key => exact .asking key
  | sweeping => exact .sweeping
  | askingAt key hread => exact .askingAt key (hsub hread)
  | sweepingAt hread => exact .sweepingAt (hsub hread)
  | served => exact .served

theorem stage_work (history : List Happening) (caller : Nat) (call : Call) :
    Stage history caller call.work := by
  cases call with
  | allow key => exact .asking key
  | sweep => exact .sweeping

/-- Between the reading and the turn of the second of two calls, a sweep has read the clock and taken
its own turn. It came after the first call, whose entry had expired for the sweep, though not for the
second call. -/
def Overtaken (ttl : Nat) (history : List Happening) (first : Nat) (key : String) (time : Nat)
    (second later : Nat) : Prop :=
  ∃ sweeper swept, time + ttl ≤ swept ∧ later < swept ∧
    [.allow first key time true, .sweep sweeper swept, .allow second key later true] <+ history ∧
    [.read second later, .read sweeper swept, .sweep sweeper swept,
      .allow second key later true] <+ history

/-- Readings do not decrease. -/
def Happening.InTime : Happening → Happening → Prop
  | .read _ first, .read _ second => first ≤ second
  | _, _ => True

/-- A grant is remembered by an entry that is no older, or a sweep at the end of its window has come
since. -/
def Kept (ttl : Nat) (dedup : Deduplicator) (history : List Happening) (caller : Nat) (key : String)
    (time : Nat) : Prop :=
  (∃ last, (key, last) ∈ dedup.seen ∧ time ≤ last) ∨
    ∃ sweeper swept, time + ttl ≤ swept ∧
      [.allow caller key time true, .sweep sweeper swept] <+ history

/-- The invariant of the steps. -/
structure Sound (ttl : Nat) (race : Race) : Prop where
  ttl_eq : race.dedup.ttl = ttl
  distinct : race.dedup.Distinct
  inTime : race.history.Pairwise Happening.InTime
  le_clock : ∀ caller time, .read caller time ∈ race.history → time ≤ race.clock
  stage : ∀ caller work, race.callers[caller]? = some work → Stage race.history caller work
  swept : ∀ caller time, .sweep caller time ∈ race.history →
    [.read caller time, .sweep caller time] <+ race.history
  kept : ∀ caller key time, .allow caller key time true ∈ race.history →
    Kept ttl race.dedup race.history caller key time
  apart : ∀ first second key time later,
    [.allow first key time true, .allow second key later true] <+ race.history →
      time + ttl ≤ later ∨ Overtaken ttl race.history first key time second later

variable {ttl clock : Nat} {race race' : Race} {dedup : Deduplicator}
  {callers : List (RelayM Unit)} {history : List Happening}

private theorem pair_sublist_concat {first second last : Happening}
    (hpair : [first, second] <+ history ++ [last]) :
    [first, second] <+ history ∨ (first ∈ history ∧ second = last) := by
  obtain ⟨before, after, hsplit, hbefore, hafter⟩ := List.sublist_append_iff.1 hpair
  obtain rfl | rfl := List.sublist_singleton.1 hafter
  · rw [hsplit, List.append_nil]
    exact .inl hbefore
  · have hparts : [first] ++ [second] = before ++ [last] := hsplit
    obtain ⟨rfl, hlast⟩ := List.append_inj' hparts rfl
    exact .inr ⟨List.singleton_sublist.1 hbefore, by simpa using hlast⟩

theorem Overtaken.mono {first second time later : Nat} {key : String} {history' : List Happening}
    (hovertaken : Overtaken ttl history first key time second later) (hsub : history <+ history') :
    Overtaken ttl history' first key time second later := by
  obtain ⟨sweeper, swept, hold, hlater, hturns, hreadings⟩ := hovertaken
  exact ⟨sweeper, swept, hold, hlater, hturns.trans hsub, hreadings.trans hsub⟩

theorem Kept.concat {caller time : Nat} {key : String}
    (hkept : Kept ttl dedup history caller key time) (last : Happening) :
    Kept ttl dedup (history ++ [last]) caller key time := by
  obtain hentry | ⟨sweeper, swept, hold, hturns⟩ := hkept
  · exact .inl hentry
  · exact .inr ⟨sweeper, swept, hold, hturns.trans (List.sublist_append_left ..)⟩

/-- What a sweep forgets of a grant, it forgets at the end of the window. -/
theorem Kept.sweep {caller time : Nat} {key : String} (hpositive : 0 < dedup.ttl)
    (hkept : Kept dedup.ttl dedup history caller key time)
    (hgrant : .allow caller key time true ∈ history) (sweeper now : Nat) :
    Kept dedup.ttl (dedup.sweep now).2 (history ++ [.sweep sweeper now]) caller key time := by
  obtain ⟨last, hmem, hle⟩ | ⟨other, swept, hold, hturns⟩ := hkept
  · by_cases hfresh : now - last < dedup.ttl
    · exact .inl ⟨last, mem_sweep_iff.2 ⟨hmem, hfresh⟩, hle⟩
    · have hold : time + dedup.ttl ≤ now := by omega
      have hturns := (List.singleton_sublist.2 hgrant).append
        (List.Sublist.refl [Happening.sweep sweeper now])
      exact .inr ⟨sweeper, now, hold, hturns⟩
  · exact .inr ⟨other, swept, hold, hturns.trans (List.sublist_append_left ..)⟩

/-- A new grant takes the entry of the older ones over: it is later than they are. -/
theorem Kept.record {caller time now : Nat} {key other : String}
    (hkept : Kept ttl dedup history caller other time)
    (hallowed : ∀ last, (key, last) ∈ dedup.seen → last ≤ now) :
    Kept ttl (dedup.record key now) history caller other time := by
  obtain ⟨last, hmem, hle⟩ | hswept := hkept
  · by_cases hother : other = key
    · subst hother
      exact .inl ⟨now, mem_record_iff.2 (.inl ⟨rfl, rfl⟩), Nat.le_trans hle (hallowed last hmem)⟩
    · exact .inl ⟨last, mem_record_iff.2 (.inr ⟨hother, hmem⟩), hle⟩
  · exact .inr hswept

/-- A reading that is earlier than that of a sweep comes before it. -/
theorem read_before_sweep {caller sweeper time swept : Nat}
    (hinTime : history.Pairwise Happening.InTime) (hread : .read caller time ∈ history)
    (hswept : [.read sweeper swept, .sweep sweeper swept] <+ history) (hlt : time < swept) :
    [.read caller time, .read sweeper swept, .sweep sweeper swept] <+ history := by
  obtain ⟨before, after, rfl, hbefore, hturn⟩ := List.cons_sublist_iff.1 hswept
  obtain ⟨earlier, later, rfl⟩ := List.append_of_mem hbefore
  rw [List.append_assoc, List.cons_append, List.pairwise_append, List.pairwise_cons] at hinTime
  obtain ⟨-, ⟨hafter, -⟩, -⟩ := hinTime
  rw [List.append_assoc, List.cons_append] at hread ⊢
  obtain hread | hread := List.mem_append.1 hread
  · have hrest : [.read sweeper swept, .sweep sweeper swept] <+
        Happening.read sweeper swept :: (later ++ after) :=
      (hturn.trans (List.sublist_append_right later after)).cons_cons _
    exact (List.singleton_sublist.2 hread).append hrest
  · exfalso
    obtain heq | hread := List.mem_cons.1 hread
    · cases heq
      exact Nat.lt_irrefl _ hlt
    · have hle : swept ≤ time := hafter _ hread
      omega

/-- A call that is let through comes a window after the first grant, or a sweep has overtaken it. -/
theorem Sound.overtaken (hsound : Sound ttl ⟨clock, dedup, callers, history⟩)
    {first second time later : Nat} {key : String}
    (hgrant : .allow first key time true ∈ history) (hread : .read second later ∈ history)
    (hallowed : ∀ last, (key, last) ∈ dedup.seen → last + ttl ≤ later) :
    time + ttl ≤ later ∨
      Overtaken ttl (history ++ [.allow second key later true]) first key time second later := by
  obtain ⟨last, hmem, hle⟩ | ⟨sweeper, swept, hold, hturns⟩ := hsound.kept first key time hgrant
  · have hlast := hallowed last hmem
    exact .inl (by omega)
  · by_cases hearlier : swept ≤ later
    · exact .inl (by omega)
    · have hlt : later < swept := Nat.not_le.1 hearlier
      have hsweep : .sweep sweeper swept ∈ history := hturns.subset (by simp)
      have hreadings :=
        read_before_sweep hsound.inTime hread (hsound.swept sweeper swept hsweep) hlt
      exact .inr ⟨sweeper, swept, hold, hlt, hturns.append (List.Sublist.refl _),
        hreadings.append (List.Sublist.refl _)⟩

/-- What a caller's step has to keep, besides what any step keeps. -/
private theorem Sound.concat (hsound : Sound ttl ⟨clock, dedup, callers, history⟩)
    {dedup' : Deduplicator} {caller : Nat} {work : RelayM Unit} {last : Happening}
    (httl : dedup'.ttl = ttl) (hdistinct : dedup'.Distinct)
    (hstage : Stage (history ++ [last]) caller work)
    (hinTime : ∀ happening ∈ history, Happening.InTime happening last)
    (hclock : ∀ caller time, last = .read caller time → time ≤ clock)
    (hswept : ∀ sweeper time, last = .sweep sweeper time → .read sweeper time ∈ history)
    (hkept : ∀ caller key time, .allow caller key time true ∈ history ++ [last] →
      Kept ttl dedup' (history ++ [last]) caller key time)
    (hapart : ∀ first second key time later, .allow first key time true ∈ history →
      last = .allow second key later true → time + ttl ≤ later ∨
        Overtaken ttl (history ++ [last]) first key time second later) :
    Sound ttl ⟨clock, dedup', callers.set caller work, history ++ [last]⟩ where
  ttl_eq := httl
  distinct := hdistinct
  inTime := by
    rw [List.pairwise_append]
    refine ⟨hsound.inTime, List.pairwise_singleton _ _, fun happening hmem final hfinal => ?_⟩
    obtain rfl := List.mem_singleton.1 hfinal
    exact hinTime happening hmem
  le_clock := by
    intro other time hmem
    obtain hmem | hmem := List.mem_append.1 hmem
    · exact hsound.le_clock other time hmem
    · exact hclock other time (List.mem_singleton.1 hmem).symm
  stage := by
    intro other rest hrest
    rw [List.getElem?_set] at hrest
    split at hrest
    · rename_i hsame
      subst hsame
      split at hrest
      · obtain rfl := Option.some.inj hrest
        exact hstage
      · cases hrest
    · exact (hsound.stage other rest hrest).mono (List.subset_append_left ..)
  swept := by
    intro sweeper time hmem
    obtain hmem | hmem := List.mem_append.1 hmem
    · exact (hsound.swept sweeper time hmem).trans (List.sublist_append_left ..)
    · obtain rfl := List.mem_singleton.1 hmem
      have hread := hswept sweeper time rfl
      exact (List.singleton_sublist.2 hread).append (List.Sublist.refl _)
  kept := hkept
  apart := by
    intro first second key time later hpair
    obtain hpair | ⟨hgrant, hlast⟩ := pair_sublist_concat hpair
    · exact (hsound.apart first second key time later hpair).imp_right
        (·.mono (List.sublist_append_left ..))
    · exact hapart first second key time later hgrant hlast.symm

private theorem Sound.kept_concat (hsound : Sound ttl ⟨clock, dedup, callers, history⟩)
    {last : Happening} (hlast : ∀ caller key time, last ≠ .allow caller key time true) :
    ∀ caller key time, .allow caller key time true ∈ history ++ [last] →
      Kept ttl dedup (history ++ [last]) caller key time := by
  intro caller key time hmem
  obtain hmem | hmem := List.mem_append.1 hmem
  · exact (hsound.kept caller key time hmem).concat last
  · exact absurd (List.mem_singleton.1 hmem).symm (hlast caller key time)

theorem Sound.read (hsound : Sound ttl ⟨clock, dedup, callers, history⟩) {caller : Nat}
    {next : Nat → RelayM Unit} (hcaller : callers[caller]? = some (.ask .now next)) :
    Sound ttl ⟨clock, dedup, callers.set caller (next clock), history ++ [.read caller clock]⟩ := by
  have hmem : .read caller clock ∈ history ++ [.read caller clock] := by simp
  refine hsound.concat hsound.ttl_eq hsound.distinct ?_ ?_ ?_ nofun (hsound.kept_concat nofun) nofun
  · cases hsound.stage caller _ hcaller with
    | asking key => exact .askingAt key hmem
    | sweeping => exact .sweepingAt hmem
  · intro happening hhappening
    cases happening with
    | read other time => exact hsound.le_clock other time hhappening
    | allow | sweep => trivial
  · rintro _ _ ⟨⟩
    exact Nat.le_refl clock

theorem Sound.sweep (hsound : Sound ttl ⟨clock, dedup, callers, history⟩) (hpositive : 0 < ttl)
    {caller time : Nat} {next : Nat → RelayM Unit}
    (hcaller : callers[caller]? = some (.ask (.sweep time) next)) :
    Sound ttl ⟨clock, (dedup.sweep time).2, callers.set caller (next (dedup.sweep time).1),
      history ++ [.sweep caller time]⟩ := by
  have httl : dedup.ttl = ttl := hsound.ttl_eq
  subst httl
  refine hsound.concat rfl (hsound.distinct.sweep time) ?_ ?_ nofun ?_ ?_ nofun
  · cases hsound.stage caller _ hcaller with
    | sweepingAt hread => exact .served
  · intro happening _
    cases happening <;> trivial
  · rintro _ _ ⟨⟩
    cases hsound.stage caller _ hcaller with
    | sweepingAt hread => exact hread
  · intro other key granted hmem
    obtain hmem | hmem := List.mem_append.1 hmem
    · exact (hsound.kept other key granted hmem).sweep hpositive hmem caller time
    · cases List.mem_singleton.1 hmem

theorem Sound.allow (hsound : Sound ttl ⟨clock, dedup, callers, history⟩) (hpositive : 0 < ttl)
    {caller time : Nat} {key : String} {next : Bool → RelayM Unit}
    (hcaller : callers[caller]? = some (.ask (.allow key time) next)) :
    Sound ttl ⟨clock, (dedup.allow key time).2, callers.set caller (next (dedup.allow key time).1),
      history ++ [.allow caller key time (dedup.allow key time).1]⟩ := by
  have httl : dedup.ttl = ttl := hsound.ttl_eq
  subst httl
  have hserved : ∀ allowed,
      Stage (history ++ [.allow caller key time allowed]) caller (next allowed) := by
    intro allowed
    cases hsound.stage caller _ hcaller with
    | askingAt key hread => exact .served
  have hread : .read caller time ∈ history := by
    cases hsound.stage caller _ hcaller with
    | askingAt key hread => exact hread
  have hinTime : ∀ allowed, ∀ happening ∈ history,
      Happening.InTime happening (.allow caller key time allowed) := by
    intro allowed happening _
    cases happening <;> trivial
  cases hheld : dedup.suppresses key time with
  | true =>
    simp only [fst_allow, snd_allow, hheld, Bool.not_true, if_true]
    exact hsound.concat rfl hsound.distinct (hserved false) (hinTime false) nofun nofun
      (hsound.kept_concat nofun) nofun
  | false =>
    simp only [fst_allow, snd_allow, hheld, Bool.not_false, Bool.false_eq_true, if_false]
    have hallowed : ∀ last, (key, last) ∈ dedup.seen → last + dedup.ttl ≤ time := by
      intro last hmem
      have hold : ¬ time - last < dedup.ttl := by
        intro hfresh
        have hsuppressed := hsound.distinct.suppresses_iff.2 ⟨last, hmem, hfresh⟩
        rw [hheld] at hsuppressed
        cases hsuppressed
      omega
    refine hsound.concat rfl (hsound.distinct.record key time) (hserved true) (hinTime true) nofun
      nofun ?_ ?_
    · intro other otherKey granted hmem
      obtain hmem | hmem := List.mem_append.1 hmem
      · have hkept := (hsound.kept other otherKey granted hmem).concat (.allow caller key time true)
        exact hkept.record fun last hentry => by
          have hlast := hallowed last hentry
          omega
      · cases List.mem_singleton.1 hmem
        exact .inl ⟨time, mem_record_iff.2 (.inl ⟨rfl, rfl⟩), Nat.le_refl time⟩
    · rintro first _ _ granted _ hgrant ⟨⟩
      exact hsound.overtaken hgrant hread hallowed

theorem Step.sound (hstep : Step race race') (hpositive : 0 < ttl) (hsound : race.Sound ttl) :
    race'.Sound ttl := by
  cases hstep with
  | pass later hlater =>
    exact { hsound with
      le_clock := fun caller time hmem => Nat.le_trans (hsound.le_clock caller time hmem) hlater }
  | come call =>
    refine { hsound with stage := ?_ }
    intro caller work hwork
    rw [List.getElem?_append] at hwork
    split at hwork
    · exact hsound.stage caller work hwork
    · have hcall : work = call.work := by
        rw [List.getElem?_singleton] at hwork
        split at hwork
        · exact (Option.some.inj hwork).symm
        · cases hwork
      rw [hcall]
      exact stage_work _ caller call
  | read hcaller => exact hsound.read hcaller
  | allow hcaller => exact hsound.allow hpositive hcaller
  | sweep hcaller => exact hsound.sweep hpositive hcaller

theorem Reachable.sound (hreachable : race.Reachable ttl) (hpositive : 0 < ttl) :
    race.Sound ttl := by
  induction hreachable with
  | initial clock =>
    exact ⟨rfl, distinct_new ttl, .nil, nofun, nofun, nofun, nofun, by simp⟩
  | step _ hstep ih => exact hstep.sound hpositive ih

/-- Two calls of one key that are both let through are a window apart by their own readings, except
where a sweep overtakes the second of them. -/
theorem grants_apart_or_overtaken (hreachable : race.Reachable ttl) (hpositive : 0 < ttl)
    {first second time later : Nat} {key : String}
    (hgrants : [.allow first key time true, .allow second key later true] <+ race.history) :
    time + ttl ≤ later ∨ Overtaken ttl race.history first key time second later :=
  (hreachable.sound hpositive).apart first second key time later hgrants

/-- Two calls read the clock at 0 and at 9, and a sweep reads it at 10 and takes its turn before the
second call. -/
private theorem reachable_near_expiry : ∃ race : Race, race.Reachable 10 ∧
    [.allow 0 "k" 0 true, .allow 1 "k" 9 true] <+ race.history := by
  have hinitial : Reachable 10 ⟨0, .new 10, [], []⟩ := .initial 0
  have hcome := ((hinitial.step (.come (.allow "k"))).step (.come (.allow "k"))).step (.come .sweep)
  have hfirst := (hcome.step (@Step.read _ _ _ _ 0 _ rfl)).step (@Step.allow _ _ _ _ 0 _ _ _ rfl)
  have hread := (hfirst.step (.pass 9 (Nat.zero_le 9))).step (@Step.read _ _ _ _ 1 _ rfl)
  have hreadSweep := (hread.step (.pass 10 (Nat.le_succ 9))).step (@Step.read _ _ _ _ 2 _ rfl)
  have hswept := hreadSweep.step (@Step.sweep _ _ _ _ 2 _ _ rfl)
  exact ⟨_, hswept.step (@Step.allow _ _ _ _ 1 _ _ _ rfl), by decide⟩

/-- The second of two calls is let through one unit too early, because of a sweep. -/
theorem grants_apart_or_overtaken_near_expiry : ∃ race : Race, race.Reachable 10 ∧ 0 < 10 ∧
    [.allow 0 "k" 0 true, .allow 1 "k" 9 true] <+ race.history ∧
      Overtaken 10 race.history 0 "k" 0 1 9 := by
  obtain ⟨race, hreachable, hgrants⟩ := reachable_near_expiry
  have hpositive : 0 < 10 := by decide
  refine ⟨race, hreachable, hpositive, hgrants, ?_⟩
  exact (grants_apart_or_overtaken hreachable hpositive hgrants).resolve_left (by decide)

/-- A sweep that races a call can change its answer: two calls of one key can both be let through within
one window. -/
theorem not_forall_grants_apart :
    ¬ ∀ (ttl : Nat) (race : Race), 0 < ttl → race.Reachable ttl →
      ∀ (first second : Nat) (key : String) (time later : Nat),
        [.allow first key time true, .allow second key later true] <+ race.history →
          time + ttl ≤ later ∨ later + ttl ≤ time := by
  intro hapart
  obtain ⟨race, hreachable, hgrants⟩ := reachable_near_expiry
  have hfalse := hapart 10 race (by decide) hreachable 0 1 "k" 0 9 hgrants
  revert hfalse
  decide

end Race

end EventRelay.Deduplicator
