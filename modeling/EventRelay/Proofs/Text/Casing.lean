import EventRelay.Proofs.Text.CodePoint
import EventRelay.Text.Casing
import Mathlib.Data.List.TakeWhile

namespace EventRelay.Text

/-- The lower case of a text that stands between others. What is before it comes nearest character
first. -/
def lowercaseAmid (before : List Char) : List Char → List Char → List Char
  | [], _ => []
  | c :: rest, after =>
    lowercaseIn before c (rest ++ after) ++ lowercaseAmid (c :: before) rest after

/-- A capital sigma between these is the last letter of a word, and not its only one. -/
def EndsWord (before after : List Char) : Prop :=
  casedFollows before = true ∧ casedFollows after = false

variable {before after before' after' : List Char}

@[simp] theorem lowercaseAmid_nil (before after : List Char) : lowercaseAmid before [] after = [] :=
  rfl

theorem lowercaseAfter_eq (before text : List Char) :
    lowercaseAfter before text = lowercaseAmid before text [] := by
  induction text generalizing before with
  | nil => rfl
  | cons c rest ih => rw [lowercaseAfter, lowercaseAmid, List.append_nil, ih]

theorem lowercaseAmid_append (before first second after : List Char) :
    lowercaseAmid before (first ++ second) after =
      lowercaseAmid before first (second ++ after) ++
        lowercaseAmid (first.reverse ++ before) second after := by
  induction first generalizing before with
  | nil => rfl
  | cons c rest ih =>
    rw [List.cons_append, lowercaseAmid, lowercaseAmid, ih, List.append_assoc, List.append_assoc,
      List.reverse_cons, List.append_assoc, List.singleton_append]

theorem lowercaseIn_of_ne {c : Char} (hc : c ≠ capitalSigma) (before after : List Char) :
    lowercaseIn before c after = lowercaseChar c :=
  if_neg hc

theorem lowercaseIn_of_endsWord (hends : EndsWord before after) :
    lowercaseIn before capitalSigma after = [finalSigma] := by
  rw [lowercaseIn, if_pos rfl, hends.1, hends.2]
  rfl

theorem lowercaseIn_of_not_endsWord (hends : ¬ EndsWord before after) :
    lowercaseIn before capitalSigma after = [smallSigma] := by
  rw [lowercaseIn, if_pos rfl, if_neg (by simpa [EndsWord] using hends)]

theorem lowercaseIn_sigma_inj :
    lowercaseIn before capitalSigma after = lowercaseIn before' capitalSigma after' ↔
      (EndsWord before after ↔ EndsWord before' after') := by
  have hne : smallSigma ≠ finalSigma := by decide
  by_cases hends : EndsWord before after <;> by_cases hends' : EndsWord before' after' <;>
    simp [lowercaseIn_of_endsWord, lowercaseIn_of_not_endsWord, hends, hends', hne, hne.symm]

theorem length_lowercaseIn (c : Char) (before after before' after' : List Char) :
    (lowercaseIn before c after).length = (lowercaseIn before' c after').length := by
  by_cases hc : c = capitalSigma
  · simp only [lowercaseIn, hc, if_true, List.length_singleton]
  · rw [lowercaseIn_of_ne hc, lowercaseIn_of_ne hc]

theorem length_lowercaseAmid (text before after before' after' : List Char) :
    (lowercaseAmid before text after).length = (lowercaseAmid before' text after').length := by
  induction text generalizing before before' with
  | nil => rfl
  | cons c rest ih =>
    rw [lowercaseAmid, lowercaseAmid, List.length_append, List.length_append, ih (c :: before),
      length_lowercaseIn c before]

/-- A text has one lower case in two places exactly if its capital sigmas end words in both or in
neither. -/
theorem lowercaseAmid_eq_iff {text : List Char} :
    lowercaseAmid before text after = lowercaseAmid before' text after' ↔
      ∀ front back, text = front ++ capitalSigma :: back →
        (EndsWord (front.reverse ++ before) (back ++ after) ↔
          EndsWord (front.reverse ++ before') (back ++ after')) := by
  induction text generalizing before before' with
  | nil => simp [lowercaseAmid]
  | cons c rest ih =>
    have hsplit : lowercaseAmid before (c :: rest) after = lowercaseAmid before' (c :: rest) after' ↔
        lowercaseIn before c (rest ++ after) = lowercaseIn before' c (rest ++ after') ∧
          lowercaseAmid (c :: before) rest after = lowercaseAmid (c :: before') rest after' :=
      List.append_eq_append_iff_of_size_eq_left (length_lowercaseIn c _ _ _ _)
    rw [hsplit, ih]
    -- A capital sigma of the text is `c` itself, or it is one of the rest with `c` before it.
    constructor
    · rintro ⟨hfirst, hrest⟩ front back htext
      obtain ⟨rfl, hcons⟩ | ⟨front, rfl, hback⟩ := List.cons_eq_append_iff.1 htext
      · obtain ⟨rfl, rfl⟩ := List.cons.inj hcons
        exact lowercaseIn_sigma_inj.1 hfirst
      · simpa using hrest front back hback
    · intro hall
      refine ⟨?_, fun front back htext => ?_⟩
      · by_cases hc : c = capitalSigma
        · subst hc
          exact lowercaseIn_sigma_inj.2 (hall [] rest rfl)
        · rw [lowercaseIn_of_ne hc, lowercaseIn_of_ne hc]
      · simpa using hall (c :: front) back (by rw [htext, List.cons_append])

/-- Characters that case does not ignore hide what stands beyond them. -/
theorem casedFollows_append (text beyond : List Char) :
    casedFollows (text ++ beyond) =
      if text.all isCaseIgnorable then casedFollows beyond else casedFollows text := by
  rw [casedFollows, List.dropWhile_append]
  by_cases hignored : text.all isCaseIgnorable = true
  · have hnone : text.dropWhile isCaseIgnorable = [] :=
      List.dropWhile_eq_nil_iff.2 (List.all_eq_true.1 hignored)
    simp only [hnone, hignored, List.isEmpty_nil, if_true]
    rfl
  · have hsome : text.dropWhile isCaseIgnorable ≠ [] :=
      mt List.dropWhile_eq_nil_iff.1 (mt List.all_eq_true.2 hignored)
    obtain ⟨c, rest, hrest⟩ := List.exists_cons_of_ne_nil hsome
    simp [casedFollows, hrest, hignored]

theorem casedFollows_of_all (hignored : before.all isCaseIgnorable = true) :
    casedFollows before = false := by
  rw [casedFollows, List.dropWhile_eq_nil_iff.2 (List.all_eq_true.1 hignored)]

/-- Whether a capital sigma with these around it in its text ends a word hangs on what is around the
text as well. -/
def Exposed (front back : List Char) : Prop :=
  (front.all isCaseIgnorable = true ∧ casedFollows back = false) ∨
    (back.all isCaseIgnorable = true ∧ casedFollows front.reverse = true)

theorem endsWord_append_iff_of_not_exposed {front back : List Char} (hexposed : ¬ Exposed front back)
    (before after : List Char) :
    EndsWord (front.reverse ++ before) (back ++ after) ↔ EndsWord front.reverse back := by
  have hcovered := not_or.1 hexposed
  simp only [EndsWord, casedFollows_append, List.all_reverse]
  by_cases hfront : front.all isCaseIgnorable = true <;>
    by_cases hback : back.all isCaseIgnorable = true
  · exact absurd (casedFollows_of_all hback) (not_and.1 hcovered.1 hfront)
  · have hletter := not_and.1 hcovered.1 hfront
    simp [hback, hletter]
  · have hnone := not_and.1 hcovered.2 hback
    simp [hfront, hnone]
  · simp [hfront, hback]

theorem toNat_asciiLower {c : Char} (hupper : isAsciiUpper c = true) :
    (asciiLower c).toNat = c.toNat + 32 := by
  obtain ⟨-, hlast⟩ := isAsciiUpper_iff.1 hupper
  rw [asciiLower, if_pos hupper, Char.ofNat, dif_pos (.inl (by omega))]
  rfl

theorem asciiLower_of_not_upper {c : Char} (hupper : isAsciiUpper c = false) : asciiLower c = c := by
  simp [asciiLower, hupper]

theorem isAsciiLower_asciiLower {c : Char} (hupper : isAsciiUpper c = true) :
    isAsciiLower (asciiLower c) = true := by
  have hnumber := isAsciiUpper_iff.1 hupper
  rw [isAsciiLower_iff, toNat_asciiLower hupper]
  omega

theorem isCased_asciiLower (c : Char) : isCased (asciiLower c) = isCased c := by
  cases hupper : isAsciiUpper c with
  | false => rw [asciiLower_of_not_upper hupper]
  | true => simp [isCased, hupper, isAsciiLower_asciiLower hupper]

/-- The letters of ASCII count in deciding where words end. -/
theorem isCaseIgnorable_of_letter {c : Char} (hfirst : 65 ≤ c.toNat) (hlast : c.toNat ≤ 122)
    (hmark : c.toNat ≤ 90 ∨ 97 ≤ c.toNat) : isCaseIgnorable c = false := by
  have hout : ∀ range ∈ caseIgnorableRanges, 122 < range.1 := by decide +kernel
  have hnone : inRanges caseIgnorableRanges c = false := by
    rw [inRanges, List.any_eq_false]
    intro range hrange hin
    rw [Bool.and_eq_true, decide_eq_true_eq] at hin
    have hrange := hout range hrange
    omega
  have hne (d : Char) (hd : d.toNat < 65 ∨ 90 < d.toNat ∧ d.toNat < 97) : c ≠ d := by
    rintro rfl
    omega
  have hgrave : c.toNat ≠ 0x60 := by omega
  simp [isCaseIgnorable, hnone, hne '\'' (by decide), hne '.' (by decide), hne ':' (by decide),
    hne '^' (by decide), hgrave]

theorem isCaseIgnorable_asciiLower (c : Char) :
    isCaseIgnorable (asciiLower c) = isCaseIgnorable c := by
  cases hupper : isAsciiUpper c with
  | false => rw [asciiLower_of_not_upper hupper]
  | true =>
    have hnumber := isAsciiUpper_iff.1 hupper
    have hlower := toNat_asciiLower hupper
    rw [isCaseIgnorable_of_letter (c := c) (by omega) (by omega) (by omega),
      isCaseIgnorable_of_letter (c := asciiLower c) (by omega) (by omega) (by omega)]

theorem casedFollows_map_asciiLower (text : List Char) :
    casedFollows (text.map asciiLower) = casedFollows text := by
  have hcomp : isCaseIgnorable ∘ asciiLower = isCaseIgnorable := funext isCaseIgnorable_asciiLower
  rw [casedFollows, List.dropWhile_map, hcomp, casedFollows]
  cases text.dropWhile isCaseIgnorable with
  | nil => rfl
  | cons c rest => exact isCased_asciiLower c

theorem asciiLower_asciiLower (c : Char) : asciiLower (asciiLower c) = asciiLower c := by
  cases hupper : isAsciiUpper c with
  | false => rw [asciiLower_of_not_upper hupper, asciiLower_of_not_upper hupper]
  | true =>
    refine asciiLower_of_not_upper (Bool.eq_false_iff.2 fun hagain => ?_)
    have hlower := isAsciiLower_iff.1 (isAsciiLower_asciiLower hupper)
    have hnumber := isAsciiUpper_iff.1 hagain
    omega

theorem lowercaseIn_map_asciiLower (before : List Char) (c : Char) (after : List Char) :
    lowercaseIn (before.map asciiLower) (asciiLower c) (after.map asciiLower) =
      lowercaseIn before c after := by
  cases hupper : isAsciiUpper c with
  | false =>
    rw [asciiLower_of_not_upper hupper, lowercaseIn, lowercaseIn, casedFollows_map_asciiLower,
      casedFollows_map_asciiLower]
  | true =>
    have hnumber := isAsciiUpper_iff.1 hupper
    have hlower := toNat_asciiLower hupper
    have hsigma {d : Char} (hd : d.toNat < 0x80) : d ≠ capitalSigma := by
      rintro rfl
      exact absurd hd (by decide)
    have hascii {d : Char} (hd : d.toNat < 0x80) : lowercaseChar d = [asciiLower d] := if_pos hd
    rw [lowercaseIn_of_ne (hsigma (by omega)), lowercaseIn_of_ne (hsigma (by omega)),
      hascii (by omega), hascii (by omega), asciiLower_asciiLower]

/-- The case of ASCII letters makes no difference to the lower case of a text, not even to that of the
characters around them. -/
theorem lowercase_map_asciiLower (text : List Char) :
    lowercase (text.map asciiLower) = lowercase text := by
  have hamid (before : List Char) :
      lowercaseAfter (before.map asciiLower) (text.map asciiLower) = lowercaseAfter before text := by
    induction text generalizing before with
    | nil => rfl
    | cons c rest ih =>
      rw [List.map_cons, lowercaseAfter, lowercaseAfter, lowercaseIn_map_asciiLower, ← List.map_cons,
        ih]
  exact hamid []

/-- An asterisk parts words, and it has no other case. -/
theorem lowercase_asterisk (text : List Char) : lowercase ('*' :: text) = '*' :: lowercase text := by
  have hfirst : lowercaseIn [] '*' text = ['*'] := by
    rw [lowercaseIn_of_ne (by decide)]
    decide
  have hnone : casedFollows ['*'] = false := by decide +kernel
  have hrest : lowercaseAfter ['*'] text = lowercaseAfter [] text := by
    rw [lowercaseAfter_eq, lowercaseAfter_eq, lowercaseAmid_eq_iff]
    intro front back _
    rw [EndsWord, EndsWord, casedFollows_append front.reverse, casedFollows_append front.reverse,
      hnone]
    rfl
  rw [lowercase, lowercaseAfter, hfirst, hrest]
  rfl

theorem ofNat_ne_asterisk {n : Nat} (hbeyond : 42 < n) : Char.ofNat n ≠ '*' := by
  intro hchar
  by_cases hvalid : n.isValidChar
  · rw [Char.ofNat, dif_pos hvalid] at hchar
    have hnumber : n = 42 := congrArg Char.toNat hchar
    omega
  · rw [Char.ofNat, dif_neg hvalid] at hchar
    exact absurd hchar (by decide)

theorem asterisk_notMem_lowercaseChar {c : Char} (hc : c ≠ '*') : '*' ∉ lowercaseChar c := by
  have hbeyond : ∀ run ∈ lowercaseRuns, 42 < run.2.2.2 := by decide +kernel
  rw [lowercaseChar]
  split
  · cases hupper : isAsciiUpper c with
    | false => simpa [asciiLower_of_not_upper hupper] using hc.symm
    | true =>
      have hlower := isAsciiLower_asciiLower hupper
      intro hmem
      rw [← List.mem_singleton.1 hmem] at hlower
      exact absurd hlower (by decide)
  · split
    · decide
    · split
      · rename_i image himage
        obtain ⟨run, hrun, rfl⟩ := Option.map_eq_some_iff.1 himage
        have hlarge := hbeyond run (List.mem_of_find?_eq_some hrun)
        intro hmem
        exact ofNat_ne_asterisk (Nat.lt_add_right _ hlarge) (List.mem_singleton.1 hmem).symm
      · simpa using hc.symm

theorem lowercaseIn_ne_nil (before : List Char) (c : Char) (after : List Char) :
    lowercaseIn before c after ≠ [] := by
  rw [lowercaseIn, lowercaseChar]
  repeat' split
  all_goals exact List.cons_ne_nil _ _

theorem head?_lowercase_ne_asterisk {text : List Char} (hhead : text.head? ≠ some '*') :
    (lowercase text).head? ≠ some '*' := by
  cases text with
  | nil => simp [lowercase, lowercaseAfter]
  | cons c rest =>
    have hfirst : '*' ∉ lowercaseIn [] c rest := by
      by_cases hc : c = capitalSigma
      · rw [lowercaseIn, if_pos hc]
        split <;> decide
      · rw [lowercaseIn_of_ne hc]
        exact asterisk_notMem_lowercaseChar (by simpa using hhead)
    obtain ⟨d, ds, hcons⟩ := List.exists_cons_of_ne_nil (lowercaseIn_ne_nil [] c rest)
    rw [lowercase, lowercaseAfter, hcons]
    rintro ⟨⟩
    exact hfirst (by simp [hcons])

theorem casedFollows_append_sigma (text beyond : List Char) :
    casedFollows (text ++ capitalSigma :: beyond) = casedFollows (text ++ [capitalSigma]) := by
  have hsigma (rest : List Char) : casedFollows (capitalSigma :: rest) = true := by
    have hstays : isCaseIgnorable capitalSigma = false := by decide +kernel
    have hcased : isCased capitalSigma = true := by decide +kernel
    simp [casedFollows, hstays, hcased]
  rw [casedFollows_append, casedFollows_append, hsigma, hsigma]

/-- A capital sigma hides what is beyond it. -/
theorem lowercaseAmid_sigma (before front back after : List Char) :
    lowercaseAmid before (front ++ capitalSigma :: back) after =
      lowercaseAmid before front [capitalSigma] ++
        lowercaseIn (front.reverse ++ before) capitalSigma (back ++ after) ++
          lowercaseAmid [capitalSigma] back after := by
  have hfront : lowercaseAmid before front (capitalSigma :: back ++ after) =
      lowercaseAmid before front [capitalSigma] := by
    refine lowercaseAmid_eq_iff.2 fun first last _ => ?_
    rw [EndsWord, EndsWord, List.cons_append, casedFollows_append_sigma]
  have hback : lowercaseAmid (capitalSigma :: (front.reverse ++ before)) back after =
      lowercaseAmid [capitalSigma] back after := by
    refine lowercaseAmid_eq_iff.2 fun first last _ => ?_
    rw [EndsWord, EndsWord, casedFollows_append_sigma]
  rw [lowercaseAmid_append, hfront, lowercaseAmid, hback, List.append_assoc]

theorem lowercaseAmid_of_all {text : List Char} (hignored : text.all isCaseIgnorable = true)
    (before before' after after' : List Char) :
    lowercaseAmid before text after = lowercaseAmid before' text after' := by
  refine lowercaseAmid_eq_iff.2 fun front back hsplit => ?_
  have hsigma : isCaseIgnorable capitalSigma = true :=
    List.all_eq_true.1 hignored capitalSigma (by simp [hsplit])
  exact absurd hsigma (by decide +kernel)

end EventRelay.Text
