import EventRelay.Effect

namespace EventRelay

/-- The messages of a mailbox with their positions, in the order in which they arrived, and the
current position of the mailbox. A position belongs to one message at most, and the current one may be
past all of them. -/
structure MailLog where
  arrived : List (UInt64 × MailMessage)
  head : UInt64
  head_pos : 0 < head
  ascending : arrived.Pairwise (·.1 < ·.1)
  le_head : ∀ entry ∈ arrived, entry.1 ≤ head

namespace MailLog

/-- The messages whose positions pass a test, in the order in which they arrived. -/
def select (mailbox : MailLog) (keep : UInt64 → Bool) : List MailMessage :=
  (mailbox.arrived.filter fun entry => keep entry.1).map (·.2)

/-- The history that a mailbox reports when it reports all of it. -/
def pageSince (mailbox : MailLog) (position : UInt64) : HistoryPage :=
  ⟨mailbox.select fun other => position < other, mailbox.head⟩

/-- Moves the mailbox to a later position, for a message that arrives there or for a change of another
kind. -/
def advance (mailbox : MailLog) (position : UInt64) (message? : Option MailMessage)
    (hposition : mailbox.head < position) : MailLog where
  arrived := mailbox.arrived ++ message?.toList.map (position, ·)
  head := position
  head_pos := UInt64.lt_trans mailbox.head_pos hposition
  ascending := by
    rw [List.pairwise_append]
    refine ⟨mailbox.ascending, ?_, ?_⟩
    · cases message? <;> simp
    · intro earlier hearlier later hlater
      have hlt := UInt64.lt_of_le_of_lt (mailbox.le_head earlier hearlier) hposition
      cases message? with
      | none => simp at hlater
      | some message =>
        obtain rfl : later = (position, message) := by simpa using hlater
        exact hlt
  le_head := by
    intro entry hmem
    obtain hmem | hmem := List.mem_append.1 hmem
    · exact UInt64.le_of_lt (UInt64.lt_of_le_of_lt (mailbox.le_head entry hmem) hposition)
    · cases message? with
      | none => simp at hmem
      | some message =>
        obtain rfl : entry = (position, message) := by simpa using hmem
        exact UInt64.le_refl position

variable {mailbox : MailLog} {position : UInt64} {message? : Option MailMessage}
  (hposition : mailbox.head < position)

theorem mem_advance {entry : UInt64 × MailMessage} :
    entry ∈ (mailbox.advance position message? hposition).arrived ↔
      entry ∈ mailbox.arrived ∨ ∃ message, message? = some message ∧ entry = (position, message) := by
  cases message? <;> simp [advance]

/-- What arrives later makes no difference to a test that it does not pass. -/
theorem select_advance {keep : UInt64 → Bool} (hkeep : keep position = false) :
    (mailbox.advance position message? hposition).select keep = mailbox.select keep := by
  cases message? <;> simp [advance, select, hkeep]

theorem select_congr {keep keep' : UInt64 → Bool}
    (hkeep : ∀ other ≤ mailbox.head, keep other = keep' other) :
    mailbox.select keep = mailbox.select keep' := by
  rw [select, select, List.filter_congr fun entry hmem => hkeep _ (mailbox.le_head entry hmem)]

theorem entries_pageSince (mailbox : MailLog) (position : UInt64) :
    (mailbox.pageSince position).entries =
      mailbox.select fun other => position < other && other ≤ mailbox.head := by
  change (mailbox.select fun other => position < other) = _
  refine select_congr fun other hle => ?_
  simp [hle]

/-- The messages of a range are those before one of them, that one, and those after it. -/
theorem select_eq_append {message : MailMessage} (hmem : (position, message) ∈ mailbox.arrived)
    {lower upper : UInt64} (hlower : lower < position) (hupper : position ≤ upper) :
    (mailbox.select fun other => lower < other && other ≤ upper) =
      (mailbox.select fun other => lower < other && other < position) ++
        message :: mailbox.select fun other => position < other && other ≤ upper := by
  obtain ⟨before, after, harrived⟩ := List.append_of_mem hmem
  have hascending := mailbox.ascending
  rw [harrived, List.pairwise_append, List.pairwise_cons] at hascending
  obtain ⟨-, ⟨hafter, -⟩, hbefore⟩ := hascending
  replace hbefore := fun entry hmem => hbefore entry hmem _ (List.mem_cons_self ..)
  simp only [select, harrived, List.filter_append, List.filter_cons, List.map_append]
  have before_kept : (before.filter fun entry => lower < entry.1 && entry.1 ≤ upper) =
      before.filter fun entry => lower < entry.1 && entry.1 < position := by
    refine List.filter_congr fun entry hmem => ?_
    have hlt := hbefore entry hmem
    simp [hlt, UInt64.le_of_lt (UInt64.lt_of_lt_of_le hlt hupper)]
  have before_dropped : (before.filter fun entry => position < entry.1 && entry.1 ≤ upper) = [] := by
    refine List.filter_eq_nil_iff.2 fun entry hmem => ?_
    simp [UInt64.not_lt.2 (UInt64.le_of_lt (hbefore entry hmem))]
  have after_kept : (after.filter fun entry => lower < entry.1 && entry.1 ≤ upper) =
      after.filter fun entry => position < entry.1 && entry.1 ≤ upper := by
    refine List.filter_congr fun entry hmem => ?_
    have hlt := hafter entry hmem
    simp [hlt, UInt64.lt_trans hlower hlt]
  have after_dropped : (after.filter fun entry => lower < entry.1 && entry.1 < position) = [] := by
    refine List.filter_eq_nil_iff.2 fun entry hmem => ?_
    simp [UInt64.not_lt.2 (UInt64.le_of_lt (hafter entry hmem))]
  simp [before_kept, before_dropped, after_kept, after_dropped, hlower, hupper, UInt64.lt_irrefl]

end MailLog

end EventRelay
