import EventRelay.Proofs.Text.Casing
import EventRelay.Proofs.Text.Separator
import EventRelay.Rule.MailMatch

namespace EventRelay

open Text

namespace MailMatch

theorem senderFits_ending_iff {sender ending : List Char} :
    senderFits sender ('*' :: ending) = true ↔ lowercase ending <:+ lowercase sender := by
  rw [senderFits, lowercase_asterisk]
  exact List.isSuffixOf_iff_suffix

theorem senderFits_part_iff {sender part : List Char} (hpart : part.head? ≠ some '*') :
    senderFits sender part = true ↔ lowercase part <:+: lowercase sender := by
  have hlower := head?_lowercase_ne_asterisk hpart
  rw [senderFits]
  split
  · rename_i ending heq
    rw [heq] at hlower
    exact absurd rfl hlower
  · exact contains_iff

/-- When a pattern fits senders in which it stands as it is written. -/
structure Containment (pattern : List Char) : Prop where
  /-- Where each capital sigma of a part ends a word of the sender exactly if it ends one of the part, the
  sender fits. -/
  part : pattern.head? ≠ some '*' → ∀ before after,
    (∀ front back, pattern = front ++ capitalSigma :: back →
      (EndsWord (before ++ front).reverse (back ++ after) ↔ EndsWord front.reverse back)) →
      senderFits (before ++ pattern ++ after) pattern = true
  /-- All senders that contain a part fit it exactly if this never hangs on what is around the part. -/
  part_iff : pattern.head? ≠ some '*' →
    ((∀ before after, senderFits (before ++ pattern ++ after) pattern = true) ↔
      ∀ front back, pattern = front ++ capitalSigma :: back → ¬ Exposed front back)
  ending_iff : ∀ before, senderFits (before ++ pattern) ('*' :: pattern) = true ↔
    ∀ front back, pattern = front ++ capitalSigma :: back →
      (EndsWord (before ++ front).reverse back ↔ EndsWord front.reverse back)

theorem lowercase_eq (before pattern after : List Char) :
    lowercase (before ++ pattern ++ after) =
      lowercaseAmid [] before (pattern ++ after) ++ lowercaseAmid before.reverse pattern after ++
        lowercaseAmid (before ++ pattern).reverse after [] := by
  rw [lowercase, lowercaseAfter_eq, lowercaseAmid_append, lowercaseAmid_append]
  simp

theorem lowercase_eq_amid_iff {before pattern after : List Char} :
    lowercase pattern = lowercaseAmid before.reverse pattern after ↔
      ∀ front back, pattern = front ++ capitalSigma :: back →
        (EndsWord (before ++ front).reverse (back ++ after) ↔ EndsWord front.reverse back) := by
  rw [lowercase, lowercaseAfter_eq, lowercaseAmid_eq_iff]
  simp only [List.append_nil, List.reverse_append]
  exact forall₃_congr fun _ _ _ => Iff.comm

theorem senderFits_of_unexposed {pattern : List Char} (hpart : pattern.head? ≠ some '*')
    (hnone : ∀ front back, pattern = front ++ capitalSigma :: back → ¬ Exposed front back)
    (before after : List Char) : senderFits (before ++ pattern ++ after) pattern = true := by
  have hkept : lowercase pattern = lowercaseAmid before.reverse pattern after := by
    refine lowercase_eq_amid_iff.2 fun front back hsplit => ?_
    rw [List.reverse_append]
    exact endsWord_append_iff_of_not_exposed (hnone front back hsplit) _ _
  rw [senderFits_part_iff hpart, hkept, lowercase_eq]
  exact List.infix_append _ _ _

/-- Of two texts of which one has a character more, the other one does not hold it. -/
theorem not_infix_of_swapped {c d : Char} (hne : d ≠ c) {front back beyond beyond' : List Char}
    (hbeyond : c ∉ beyond) (hbeyond' : c ∉ beyond') :
    ¬ front ++ [c] ++ back <:+: beyond ++ (front ++ [d] ++ back) ++ beyond' := by
  intro hinfix
  have hcount := hinfix.count_le c
  have hd : [d].count c = 0 := List.count_eq_zero.2 (by simpa using hne.symm)
  simp only [List.count_append, hd, List.count_singleton_self, List.count_eq_zero.2 hbeyond,
    List.count_eq_zero.2 hbeyond'] at hcount
  omega

theorem lowercaseAmid_letter (before after : List Char) : lowercaseAmid before ['A'] after = ['a'] := by
  rw [lowercaseAmid, lowercaseIn_of_ne (by decide), lowercaseAmid]
  decide

/-- After a letter, a capital sigma in front of a pattern ends a word that it does not end in the
pattern. -/
theorem exists_not_senderFits_of_front {front back : List Char}
    (hpart : (front ++ capitalSigma :: back).head? ≠ some '*')
    (hfront : front.all isCaseIgnorable = true) (hback : casedFollows back = false) :
    ∃ before after, ¬ senderFits (before ++ (front ++ capitalSigma :: back) ++ after)
      (front ++ capitalSigma :: back) = true := by
  have hletter : casedFollows ['A'] = true := by decide +kernel
  have halone : ¬ EndsWord (front.reverse ++ []) (back ++ []) := by
    rintro ⟨hcased, -⟩
    rw [List.append_nil, casedFollows_of_all (by simpa using hfront)] at hcased
    cases hcased
  have hamid : EndsWord (front.reverse ++ ['A']) (back ++ []) := by
    rw [EndsWord, casedFollows_append, List.append_nil, List.all_reverse, if_pos hfront]
    exact ⟨hletter, hback⟩
  refine ⟨['A'], [], ?_⟩
  rw [senderFits_part_iff hpart, lowercase_eq, lowercase, lowercaseAfter_eq, List.reverse_singleton,
    lowercaseAmid_sigma, lowercaseAmid_sigma, lowercaseIn_of_not_endsWord halone,
    lowercaseIn_of_endsWord hamid, lowercaseAmid_of_all hfront ['A'] [] _ _, lowercaseAmid_letter]
  -- What is left of the two differs in one sigma, which is small in the pattern and final in the sender.
  exact not_infix_of_swapped (by decide) (by decide) List.not_mem_nil

/-- Before a letter, a capital sigma at the end of a pattern ends no word, which in the pattern it
does. -/
theorem exists_not_senderFits_of_back {front back : List Char}
    (hpart : (front ++ capitalSigma :: back).head? ≠ some '*')
    (hback : back.all isCaseIgnorable = true) (hfront : casedFollows front.reverse = true) :
    ∃ before after, ¬ senderFits (before ++ (front ++ capitalSigma :: back) ++ after)
      (front ++ capitalSigma :: back) = true := by
  have hletter : casedFollows ['A'] = true := by decide +kernel
  have halone : EndsWord (front.reverse ++ []) (back ++ []) := by
    rw [List.append_nil, List.append_nil]
    exact ⟨hfront, casedFollows_of_all hback⟩
  have hamid : ¬ EndsWord (front.reverse ++ []) (back ++ ['A']) := by
    rintro ⟨-, hnone⟩
    rw [casedFollows_append, if_pos hback, hletter] at hnone
    cases hnone
  refine ⟨[], ['A'], ?_⟩
  rw [senderFits_part_iff hpart, lowercase_eq, lowercase, lowercaseAfter_eq, List.reverse_nil,
    lowercaseAmid_sigma, lowercaseAmid_sigma, lowercaseIn_of_endsWord halone,
    lowercaseIn_of_not_endsWord hamid, lowercaseAmid_nil,
    lowercaseAmid_of_all hback [capitalSigma] [capitalSigma] ['A'] [], lowercaseAmid_letter]
  exact not_infix_of_swapped (by decide) List.not_mem_nil (by decide)

theorem lowercase_suffix_iff {before pattern : List Char} :
    lowercase pattern <:+ lowercase (before ++ pattern) ↔
      lowercase pattern = lowercaseAmid before.reverse pattern [] := by
  have hplace := lowercase_eq before pattern []
  rw [List.append_nil, lowercaseAmid, List.append_nil] at hplace
  rw [hplace]
  constructor
  · intro hsuffix
    have hlength : (lowercase pattern).length = (lowercaseAmid before.reverse pattern []).length := by
      rw [lowercase, lowercaseAfter_eq, length_lowercaseAmid]
    have hwithin := List.suffix_of_suffix_length_le hsuffix (List.suffix_append _ _) hlength.le
    exact hwithin.eq_of_length hlength
  · intro hkept
    rw [← hkept]
    exact List.suffix_append _ _

/-- A pattern that stands in a sender as it is written fits it, unless a capital sigma ends a word in one of
the two and not in the other. -/
theorem containing_senderFits (pattern : List Char) : Containment pattern where
  part := by
    intro hpart before after hkept
    rw [senderFits_part_iff hpart, lowercase_eq_amid_iff.2 hkept, lowercase_eq]
    exact List.infix_append _ _ _
  part_iff := by
    intro hpart
    refine ⟨?_, senderFits_of_unexposed hpart⟩
    rintro hall front back rfl (⟨hfront, hback⟩ | ⟨hback, hfront⟩)
    · obtain ⟨before, after, hnot⟩ := exists_not_senderFits_of_front hpart hfront hback
      exact hnot (hall before after)
    · obtain ⟨before, after, hnot⟩ := exists_not_senderFits_of_back hpart hback hfront
      exact hnot (hall before after)
  ending_iff := by
    intro before
    rw [senderFits_ending_iff, lowercase_suffix_iff, lowercase_eq_amid_iff]
    simp only [List.append_nil]

/-- A part that its sender goes on after, and an ending that its sender has letters before. -/
theorem exists_containing_not_senderFits : ∃ before part after ending : List Char,
    part.head? ≠ some '*' ∧ senderFits (before ++ part ++ after) part = false ∧
      senderFits (before ++ ending) ('*' :: ending) = false :=
  ⟨"Α".toList, "ΑΣ".toList, "Α".toList, "Σ".toList, by decide +kernel, by decide +kernel,
    by decide +kernel⟩

end MailMatch

end EventRelay
