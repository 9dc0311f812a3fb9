import EventRelay.Text.Split
import Mathlib.Data.List.Infix

namespace EventRelay.Text

variable {mark : Char} {text front back : List Char} {pieces : List (List Char)}

/-- A text reads `front`, then a doubled character, then `back`, and the character is not doubled at any
earlier place. It may well stand alone before, and more of it may follow. -/
structure FirstPair (mark : Char) (text front back : List Char) : Prop where
  text_eq : text = front ++ mark :: mark :: back
  first : ∀ before after, text = before ++ mark :: mark :: after → front.length ≤ before.length

/-- The character is doubled nowhere. -/
def NoPair (mark : Char) (text : List Char) : Prop :=
  ∀ before after, text ≠ before ++ mark :: mark :: after

/-- The pieces of a text, from left to right. Each but the last ends at the first doubled character
after the piece before it. -/
inductive IsSplit (mark : Char) : List Char → List (List Char) → Prop
  | last {text : List Char} (hnone : NoPair mark text) : IsSplit mark text [text]
  | cut {text front back : List Char} {pieces : List (List Char)}
      (hpair : FirstPair mark text front back) (hrest : IsSplit mark back pieces) :
      IsSplit mark text (front :: pieces)

theorem noPair_nil : NoPair mark [] := by
  intro before after heq
  cases before <;> cases heq

theorem firstPair_head (rest : List Char) : FirstPair mark (mark :: mark :: rest) [] rest :=
  ⟨rfl, fun _ _ _ => Nat.zero_le _⟩

/-- A text that does not begin with the doubled character has it where the rest has it. -/
theorem noPair_cons_iff {c : Char} {rest : List Char} (hhead : ¬ (c = mark ∧ rest.head? = some mark)) :
    NoPair mark (c :: rest) ↔ NoPair mark rest := by
  constructor
  · intro hnone before after heq
    exact hnone (c :: before) after (by rw [heq, List.cons_append])
  · intro hnone before after heq
    cases before with
    | nil =>
      obtain ⟨rfl, rfl⟩ := List.cons.inj heq
      exact hhead ⟨rfl, rfl⟩
    | cons d before => exact hnone before after (List.cons.inj heq).2

theorem firstPair_cons_iff {c : Char} {rest : List Char}
    (hhead : ¬ (c = mark ∧ rest.head? = some mark)) :
    FirstPair mark (c :: rest) front back ↔
      ∃ front', front = c :: front' ∧ FirstPair mark rest front' back := by
  constructor
  · rintro ⟨heq, hfirst⟩
    cases front with
    | nil =>
      obtain ⟨rfl, rfl⟩ := List.cons.inj heq
      exact absurd ⟨rfl, rfl⟩ hhead
    | cons d front =>
      obtain ⟨rfl, hrest⟩ := List.cons.inj heq
      refine ⟨front, rfl, hrest, fun before after hbefore => ?_⟩
      have hle := hfirst (c :: before) after (by rw [hbefore, List.cons_append])
      simpa using hle
  · rintro ⟨front, rfl, heq, hfirst⟩
    refine ⟨by rw [heq, List.cons_append], fun before after hbefore => ?_⟩
    cases before with
    | nil =>
      obtain ⟨rfl, rfl⟩ := List.cons.inj hbefore
      exact absurd ⟨rfl, rfl⟩ hhead
    | cons d before => exact Nat.succ_le_succ (hfirst before after (List.cons.inj hbefore).2)

theorem NoPair.not_head {c : Char} {rest : List Char} (hnone : NoPair mark (c :: rest)) :
    ¬ (c = mark ∧ rest.head? = some mark) := by
  rintro ⟨rfl, hrest⟩
  obtain ⟨rest, rfl⟩ := List.head?_eq_some_iff.1 hrest
  exact hnone [] rest rfl

theorem FirstPair.cons_cases {c : Char} {rest : List Char}
    (hpair : FirstPair mark (c :: rest) front back) :
    (c = mark ∧ front = [] ∧ rest = mark :: back) ∨
      (¬ (c = mark ∧ rest.head? = some mark) ∧
        ∃ front', front = c :: front' ∧ FirstPair mark rest front' back) := by
  by_cases hhead : c = mark ∧ rest.head? = some mark
  · obtain ⟨rfl, hrest⟩ := hhead
    obtain ⟨rest, rfl⟩ := List.head?_eq_some_iff.1 hrest
    have hfront : front = [] :=
      List.eq_nil_of_length_eq_zero (Nat.le_zero.1 (hpair.first [] rest rfl))
    subst hfront
    exact .inl ⟨rfl, rfl, (List.cons.inj hpair.text_eq).2⟩
  · exact .inr ⟨hhead, (firstPair_cons_iff hhead).1 hpair⟩

theorem noPair_or_exists_firstPair (mark : Char) (text : List Char) :
    NoPair mark text ∨ ∃ front back, FirstPair mark text front back := by
  induction text with
  | nil => exact .inl noPair_nil
  | cons c rest ih =>
    by_cases hhead : c = mark ∧ rest.head? = some mark
    · obtain ⟨rfl, hrest⟩ := hhead
      obtain ⟨rest, rfl⟩ := List.head?_eq_some_iff.1 hrest
      exact .inr ⟨[], rest, firstPair_head rest⟩
    · obtain hnone | ⟨front, back, hpair⟩ := ih
      · exact .inl ((noPair_cons_iff hhead).2 hnone)
      · exact .inr ⟨c :: front, back, (firstPair_cons_iff hhead).2 ⟨front, rfl, hpair⟩⟩

theorem FirstPair.length_lt (hpair : FirstPair mark text front back) : back.length < text.length := by
  rw [hpair.text_eq]
  simp only [List.length_append, List.length_cons]
  omega

theorem noPair_of_notMem (hnone : mark ∉ text) : NoPair mark text := by
  rintro before after rfl
  simp at hnone

theorem NoPair.of_append (hnone : NoPair mark (front ++ back)) :
    NoPair mark front ∧ NoPair mark back := by
  constructor
  · intro before after heq
    exact hnone before (after ++ back) (by simp [heq])
  · intro before after heq
    exact hnone (front ++ before) after (by simp [heq])

/-- A pair can only come about where two texts meet. -/
theorem NoPair.append (hfront : NoPair mark front) (hback : NoPair mark back)
    (hmeet : ¬ (front.getLast? = some mark ∧ back.head? = some mark)) :
    NoPair mark (front ++ back) := by
  induction front with
  | nil => exact hback
  | cons c front ih =>
    have hhead := hfront.not_head
    rw [List.cons_append]
    cases front with
    | nil =>
      have hmeet' : ¬ (c = mark ∧ back.head? = some mark) := by simpa using hmeet
      exact (noPair_cons_iff hmeet').2 hback
    | cons d front =>
      have hhead' : ¬ (c = mark ∧ (d :: front ++ back).head? = some mark) := hhead
      rw [List.getLast?_cons_cons] at hmeet
      exact (noPair_cons_iff hhead').2 (ih ((noPair_cons_iff hhead).1 hfront) hmeet)

/-- Whether a pair is the first one depends on nothing behind it. -/
theorem firstPair_iff : FirstPair mark text front back ↔
    text = front ++ mark :: mark :: back ∧ NoPair mark front ∧ front.getLast? ≠ some mark := by
  constructor
  · rintro ⟨rfl, hfirst⟩
    refine ⟨rfl, ?_, ?_⟩
    · rintro before after rfl
      have hle := hfirst before (after ++ mark :: mark :: back) (by simp)
      simp only [List.length_append, List.length_cons] at hle
      omega
    · intro hlast
      obtain ⟨before, rfl⟩ := List.getLast?_eq_some_iff.1 hlast
      have hle := hfirst before (mark :: back) (by simp)
      simp only [List.length_append, List.length_cons] at hle
      omega
  · rintro ⟨rfl, hnone, hlast⟩
    refine ⟨rfl, fun before after heq => ?_⟩
    by_contra hlt
    obtain ⟨between, rfl, hbetween⟩ | ⟨between, rfl, hbetween⟩ := List.append_eq_append_iff.1 heq
    · simp only [List.length_append] at hlt
      omega
    · -- An earlier pair lies in `front`, or has its second character in the first of this pair.
      match between with
      | [] => simp at hlt
      | [c] =>
        obtain ⟨rfl, -⟩ := List.cons.inj hbetween
        simp at hlast
      | c :: d :: between =>
        obtain ⟨rfl, hrest⟩ := List.cons.inj hbetween
        obtain ⟨rfl, -⟩ := List.cons.inj hrest
        exact hnone before between rfl

theorem FirstPair.of_front (hpair : FirstPair mark text front back) (back' : List Char) :
    FirstPair mark (front ++ mark :: mark :: back') front back' :=
  firstPair_iff.2 ⟨rfl, (firstPair_iff.1 hpair).2⟩

theorem FirstPair.unique {front' back' : List Char} (hpair : FirstPair mark text front back)
    (hpair' : FirstPair mark text front' back') : front = front' ∧ back = back' := by
  have hle := hpair.first front' back' hpair'.text_eq
  have hle' := hpair'.first front back hpair.text_eq
  obtain ⟨hfront, hrest⟩ := List.append_inj (hpair.text_eq.symm.trans hpair'.text_eq)
    (Nat.le_antisymm hle hle')
  exact ⟨hfront, (List.cons.inj (List.cons.inj hrest).2).2⟩

theorem NoPair.not_firstPair (hnone : NoPair mark text) : ¬ FirstPair mark text front back :=
  fun hpair => hnone front back hpair.text_eq

theorem firstPair_of_notMem (hfront : mark ∉ front) (back : List Char) :
    FirstPair mark (front ++ mark :: mark :: back) front back := by
  exact firstPair_iff.2
    ⟨rfl, noPair_of_notMem hfront, fun hlast => hfront (List.mem_of_getLast? hlast)⟩

theorem cutAtPair?_cons {c : Char} {rest : List Char}
    (hhead : ¬ (c = mark ∧ rest.head? = some mark)) :
    cutAtPair? mark (c :: rest) = (cutAtPair? mark rest).map fun cut => (c :: cut.1, cut.2) := by
  cases rest with
  | nil => rfl
  | cons d rest =>
    rw [cutAtPair?, if_neg]
    simpa using hhead

theorem splitOnPairs_cons {c : Char} {rest : List Char}
    (hhead : ¬ (c = mark ∧ rest.head? = some mark)) :
    splitOnPairs mark (c :: rest) = consFirst c (splitOnPairs mark rest) := by
  cases rest with
  | nil => rfl
  | cons d rest =>
    rw [splitOnPairs, if_neg]
    simpa using hhead

theorem cutAtPair?_of_firstPair (hpair : FirstPair mark text front back) :
    cutAtPair? mark text = some (front, back) := by
  induction text generalizing front with
  | nil => exact absurd hpair.text_eq (by simp)
  | cons c rest ih =>
    obtain ⟨rfl, rfl, rfl⟩ | ⟨hhead, front, rfl, hlater⟩ := hpair.cons_cases
    · simp [cutAtPair?]
    · simp [cutAtPair?_cons hhead, ih hlater]

theorem cutAtPair?_of_noPair (hnone : NoPair mark text) : cutAtPair? mark text = none := by
  induction text with
  | nil => rfl
  | cons c rest ih =>
    have hhead := hnone.not_head
    simp [cutAtPair?_cons hhead, ih ((noPair_cons_iff hhead).1 hnone)]

theorem cutAtPair?_eq_some_iff :
    cutAtPair? mark text = some (front, back) ↔ FirstPair mark text front back := by
  constructor
  · intro hcut
    obtain hnone | ⟨front', back', hpair⟩ := noPair_or_exists_firstPair mark text
    · rw [cutAtPair?_of_noPair hnone] at hcut
      cases hcut
    · rw [cutAtPair?_of_firstPair hpair] at hcut
      cases hcut
      exact hpair
  · exact cutAtPair?_of_firstPair

theorem splitOnPairs_of_noPair (hnone : NoPair mark text) : splitOnPairs mark text = [text] := by
  induction text with
  | nil => rfl
  | cons c rest ih =>
    have hhead := hnone.not_head
    rw [splitOnPairs_cons hhead, ih ((noPair_cons_iff hhead).1 hnone), consFirst]

theorem splitOnPairs_of_firstPair (hpair : FirstPair mark text front back) :
    splitOnPairs mark text = front :: splitOnPairs mark back := by
  induction text generalizing front with
  | nil => exact absurd hpair.text_eq (by simp)
  | cons c rest ih =>
    obtain ⟨rfl, rfl, rfl⟩ | ⟨hhead, front, rfl, hlater⟩ := hpair.cons_cases
    · simp [splitOnPairs]
    · rw [splitOnPairs_cons hhead, ih hlater, consFirst]

theorem IsSplit.ne_nil (hsplit : IsSplit mark text pieces) : pieces ≠ [] := by
  cases hsplit <;> exact List.cons_ne_nil _ _

theorem IsSplit.splitOnPairs_eq (hsplit : IsSplit mark text pieces) :
    splitOnPairs mark text = pieces := by
  induction hsplit with
  | last hnone => exact splitOnPairs_of_noPair hnone
  | cut hpair _ ih => rw [splitOnPairs_of_firstPair hpair, ih]

theorem isSplit_splitOnPairs (mark : Char) (text : List Char) :
    IsSplit mark text (splitOnPairs mark text) := by
  induction hlength : text.length using Nat.strong_induction_on generalizing text with
  | _ length ih =>
    subst hlength
    obtain hnone | ⟨front, back, hpair⟩ := noPair_or_exists_firstPair mark text
    · rw [splitOnPairs_of_noPair hnone]
      exact .last hnone
    · rw [splitOnPairs_of_firstPair hpair]
      exact .cut hpair (ih back.length hpair.length_lt back rfl)

/-- Every text is split in one way only, and `splitOnPairs` finds it. -/
theorem isSplit_iff : IsSplit mark text pieces ↔ splitOnPairs mark text = pieces := by
  constructor
  · exact IsSplit.splitOnPairs_eq
  · rintro rfl
    exact isSplit_splitOnPairs mark text

end EventRelay.Text
