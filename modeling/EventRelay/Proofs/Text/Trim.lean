import EventRelay.Text.Blank
import Mathlib.Data.List.DropRight

namespace EventRelay.Text

/-- No blank stands at either end of a text. -/
structure Bare (text : List Char) : Prop where
  head : ∀ c ∈ text.head?, isBlank c = false
  last : ∀ c ∈ text.getLast?, isBlank c = false

/-- A text reads `inner` with blanks before and after it, as many as there are. -/
inductive IsTrimmed (text inner : List Char) : Prop
  | intro {before after : List Char} (htext : text = before ++ inner ++ after)
      (hbefore : ∀ c ∈ before, isBlank c = true) (hafter : ∀ c ∈ after, isBlank c = true)
      (hbare : Bare inner) : IsTrimmed text inner

/-- The blanks at the end of a text reach back into what stands before only if it is all blank. -/
theorem trimEnd_append (before text : List Char) :
    trimEnd (before ++ text) =
      (if text.all isBlank then trimEnd before else before) ++ trimEnd text := by
  rw [trimEnd, List.reverse_append, List.dropWhile_append]
  by_cases hblank : text.all isBlank = true
  · have hnone : text.reverse.dropWhile isBlank = [] :=
      List.dropWhile_eq_nil_iff.2 (by simpa using hblank)
    simp [hblank, hnone, trimEnd]
  · have hsome : text.reverse.dropWhile isBlank ≠ [] :=
      mt List.dropWhile_eq_nil_iff.1 (by simpa using hblank)
    simp [hblank, hsome, trimEnd]

/-- The blanks at the beginning of a text reach on into what follows only if it is all blank. -/
theorem trimStart_append (before text : List Char) :
    trimStart (before ++ text) =
      trimStart before ++ (if before.all isBlank then trimStart text else text) := by
  rw [trimStart, List.dropWhile_append]
  by_cases hblank : before.all isBlank = true
  · have hnone : before.dropWhile isBlank = [] :=
      List.dropWhile_eq_nil_iff.2 (by simpa using hblank)
    simp [hblank, hnone, trimStart]
  · have hsome : before.dropWhile isBlank ≠ [] :=
      mt List.dropWhile_eq_nil_iff.1 (by simpa using hblank)
    simp [hblank, hsome, trimStart]

theorem trimEnd_of_blank {text : List Char} (hblank : text.all isBlank = true) : trimEnd text = [] := by
  rw [trimEnd, List.dropWhile_eq_nil_iff.2 (by simpa using hblank), List.reverse_nil]

theorem trimEnd_trimEnd (text : List Char) : trimEnd (trimEnd text) = trimEnd text := by
  simp only [trimEnd, List.reverse_reverse, List.dropWhile_idempotent]

theorem all_isBlank_trimStart (text : List Char) :
    (trimStart text).all isBlank = text.all isBlank := by
  induction text with
  | nil => rfl
  | cons c rest ih =>
    cases hblank : isBlank c with
    | false => simp [trimStart, hblank]
    | true => simpa [trimStart, hblank] using ih

variable {text inner : List Char}

theorem bare_iff : Bare text ↔
    (text.head?.all fun c => !isBlank c) = true ∧ (text.getLast?.all fun c => !isBlank c) = true := by
  simp only [Option.all_eq_true, Bool.not_eq_true']
  exact ⟨fun hbare => ⟨hbare.head, hbare.last⟩, fun hends => ⟨hends.1, hends.2⟩⟩

instance (text : List Char) : Decidable (Bare text) :=
  decidable_of_iff' _ bare_iff

theorem bare_of_forall (hnone : ∀ c ∈ text, isBlank c = false) : Bare text where
  head c hc := hnone c (List.mem_of_mem_head? hc)
  last c hc := hnone c (List.mem_of_mem_getLast? hc)

theorem bare_cons_concat {c d : Char} (hc : isBlank c = false) (hd : isBlank d = false)
    (middle : List Char) : Bare (c :: (middle ++ [d])) where
  head := by simpa using hc
  last := by
    rw [← List.cons_append, List.getLast?_concat]
    simpa using hd

theorem Bare.ne_blank {c : Char} {rest : List Char} (hbare : Bare (c :: rest)) : isBlank c = false :=
  hbare.head c rfl

theorem trimEnd_eq_rdropWhile (text : List Char) : trimEnd text = text.rdropWhile isBlank :=
  rfl

theorem Bare.trimEnd_eq (hbare : Bare text) : trimEnd text = text := by
  rw [trimEnd_eq_rdropWhile, List.rdropWhile_eq_self_iff]
  intro hne
  have hlast := hbare.last _ (List.getLast?_eq_some_getLast hne)
  simp [hlast]

/-- Trimming leaves a text that is bare as it is, and takes all blanks away around it. -/
theorem IsTrimmed.trim_eq (htrimmed : IsTrimmed text inner) : trim text = inner := by
  obtain @⟨before, after, rfl, hbefore, hafter, hbare⟩ := htrimmed
  have hstart : trimStart (before ++ (inner ++ after)) = trimStart (inner ++ after) :=
    List.dropWhile_append_of_pos hbefore
  have hend : trimEnd after = [] := by
    rw [trimEnd_eq_rdropWhile, List.rdropWhile_eq_nil_iff]
    exact hafter
  rw [trim, List.append_assoc, hstart]
  cases inner with
  | nil =>
    have hafterStart : trimStart after = [] := List.dropWhile_eq_nil_iff.2 hafter
    rw [List.nil_append, hafterStart]
    rfl
  | cons c rest =>
    have hkept : trimStart (c :: rest ++ after) = c :: rest ++ after := by
      simp [trimStart, hbare.ne_blank]
    rw [hkept, trimEnd_append, if_pos (by simpa using hafter), hbare.trimEnd_eq, hend,
      List.append_nil]

theorem isTrimmed_trim (text : List Char) : IsTrimmed text (trim text) := by
  have hstart : text = text.takeWhile isBlank ++ trimStart text :=
    List.takeWhile_append_dropWhile.symm
  have hend : trimStart text = trim text ++ (trimStart text).rtakeWhile isBlank :=
    (List.rdropWhile_append_rtakeWhile ..).symm
  refine .intro (by rw [List.append_assoc, ← hend, ← hstart]) ?_ ?_ ⟨?_, ?_⟩
  · exact fun c hc => List.all_eq_true.1 List.all_takeWhile c hc
  · exact fun c hc => List.mem_rtakeWhile_imp hc
  · intro c hc
    -- The trimmed text begins as the text does once its first blanks are gone.
    have hhead : c ∈ (trimStart text).head? := by
      rw [hend]
      simp [Option.mem_def.1 hc]
    have hnot := List.head?_dropWhile_not isBlank text
    rw [← trimStart, Option.mem_def.1 hhead] at hnot
    simpa using hnot
  · intro c hc
    obtain ⟨hne, rfl⟩ := List.mem_getLast?_eq_getLast hc
    exact Bool.eq_false_iff.2 (List.rdropWhile_last_not isBlank (trimStart text) hne)

/-- Every text is trimmed to one text only, and that is what `trim` gives. -/
theorem isTrimmed_iff : IsTrimmed text inner ↔ trim text = inner := by
  constructor
  · exact IsTrimmed.trim_eq
  · rintro rfl
    exact isTrimmed_trim text

theorem Bare.trim_eq (hbare : Bare text) : trim text = text := by
  have htext : text = [] ++ text ++ [] := by simp
  exact (IsTrimmed.intro htext (by simp) (by simp) hbare).trim_eq

/-- Only of a blank text nothing is left. -/
theorem trim_eq_nil_iff : trim text = [] ↔ ∀ c ∈ text, isBlank c = true := by
  constructor
  · intro hnil
    obtain ⟨htext, hbefore, hafter, -⟩ := isTrimmed_iff.2 hnil
    rw [htext]
    intro c hc
    simp only [List.append_nil, List.mem_append] at hc
    exact hc.elim (hbefore c) (hafter c)
  · intro hblank
    have htext : text = text ++ [] ++ [] := by simp
    exact (IsTrimmed.intro htext hblank (by simp) (bare_of_forall (by simp))).trim_eq

end EventRelay.Text
