import EventRelay.Text.Split
import Mathlib.Data.List.Basic

namespace EventRelay

variable {α : Type} {item : α} {before before' after after' : List α}

/-- Two lists are the same if they are cut at the last place where an item stands. -/
theorem append_cons_inj (hafter : item ∉ after) (hafter' : item ∉ after')
    (hlists : before ++ item :: after = before' ++ item :: after') :
    before = before' ∧ after = after' := by
  obtain ⟨between, rfl, hrest⟩ | ⟨between, rfl, hrest⟩ := List.append_eq_append_iff.1 hlists
  · cases between with
    | nil => simpa [eq_comm] using hrest
    | cons head between =>
      rw [List.cons_append, List.cons.injEq] at hrest
      simp [hrest.2] at hafter
  · cases between with
    | nil => simpa [eq_comm] using hrest
    | cons head between =>
      rw [List.cons_append, List.cons.injEq] at hrest
      simp [hrest.2] at hafter'

/-- As `append_cons_inj`, with a cut at the first place where the item stands. -/
theorem append_cons_inj_of_first (hbefore : item ∉ before) (hbefore' : item ∉ before')
    (hlists : before ++ item :: after = before' ++ item :: after') :
    before = before' ∧ after = after' := by
  have hreversed := congrArg List.reverse hlists
  simp only [List.reverse_append, List.reverse_cons, List.append_assoc, List.singleton_append]
    at hreversed
  obtain ⟨hafters, hbefores⟩ :=
    append_cons_inj (by simpa using hbefore) (by simpa using hbefore') hreversed
  exact ⟨List.reverse_inj.1 hbefores, List.reverse_inj.1 hafters⟩

namespace Text

/-- A text is looked for at all of its places. -/
theorem contains_iff {text part : List Char} : contains text part = true ↔ part <:+: text := by
  induction text with
  | nil => simp [contains]
  | cons c rest ih =>
    rw [contains, Bool.or_eq_true, List.isPrefixOf_iff_prefix, ih, List.infix_cons_iff]

end Text

end EventRelay
