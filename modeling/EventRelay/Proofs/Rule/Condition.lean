import EventRelay.Proofs.Text.CodePoint
import EventRelay.Proofs.Text.Pairs
import EventRelay.Proofs.Text.Trim
import EventRelay.Rule.Condition
import Mathlib.Data.List.Forall2
import Mathlib.Data.Option.Basic

namespace EventRelay

open Text

namespace Clause

/-- A piece reads `fact == 'literal'`, with any blanks around the fact, the doubled sign and the quoted
literal. Blanks between the quotes belong to the literal. -/
structure IsEquality (piece : List Char) (fact literal : String) : Prop where
  piece_eq : ∃ before left right after : List Char,
    piece = before ++ fact.toList ++ left ++ ['=', '='] ++ right ++
      ['\''] ++ literal.toList ++ ['\''] ++ after ∧
    ∀ c ∈ before ++ left ++ right ++ after, isBlank c = true
  fact_ne_empty : fact ≠ ""
  factChar : ∀ c ∈ fact.toList, isAsciiAlphanumeric c = true ∨ c = '_' ∨ c = '-' ∨ c = '.'
  quote_notMem : '\'' ∉ literal.toList

/-- What a piece is taken for, whatever stands beside it. -/
inductive Reads (piece : List Char) : Clause → Prop
  | equality {fact literal : String} (hequality : IsEquality piece fact literal) :
      Reads piece (.equals fact literal)
  | other {text : List Char} (hnone : ∀ fact literal, ¬ IsEquality piece fact literal)
      (htrimmed : IsTrimmed piece text) : Reads piece (.malformed (String.ofList text))

variable {piece text : List Char} {clause : Clause}

theorem isFactChar_iff {c : Char} :
    isFactChar c = true ↔ isAsciiAlphanumeric c = true ∨ c = '_' ∨ c = '-' ∨ c = '.' := by
  simp only [isFactChar, Bool.or_eq_true, beq_iff_eq, or_assoc]

theorem isBlank_of_isFactChar {c : Char} (hfact : isFactChar c = true) : isBlank c = false := by
  obtain hc | rfl | rfl | rfl := isFactChar_iff.1 hfact
  · exact isBlank_of_isAsciiAlphanumeric hc
  all_goals decide

theorem ne_equals_of_isFactChar {c : Char} (hfact : isFactChar c = true) : c ≠ '=' := by
  rintro rfl
  revert hfact
  decide

section Characters

variable {fact literal : List Char}

theorem unquote?_eq_some_iff :
    unquote? text = some literal ↔ text = '\'' :: (literal ++ ['\'']) ∧ '\'' ∉ literal := by
  constructor
  · intro hunquote
    unfold unquote? at hunquote
    split at hunquote
    case h_1 rest =>
      obtain ⟨hrest, heq⟩ := Option.ite_none_right_eq_some.1 hunquote
      cases heq
      have hliteral : '\'' ∉ rest.takeWhile (· != '\'') := by
        intro hquote
        simpa using List.mem_takeWhile_imp hquote
      exact ⟨congrArg _ hrest, hliteral⟩
    case h_2 => cases hunquote
  · rintro ⟨rfl, hquote⟩
    have hchars : ∀ c ∈ literal, (c != '\'') = true := by
      intro c hc
      have hne : c ≠ '\'' := fun heq => hquote (heq ▸ hc)
      simpa using hne
    have htake : (literal ++ ['\'']).takeWhile (· != '\'') = literal := by
      rw [List.takeWhile_append_of_pos hchars]
      simp
    simp [unquote?, htake]

/-- The doubled sign that parts a text is its first one, so a fact that holds a sign is none. -/
theorem readEquality?_eq_some_iff :
    readEquality? text = some (fact, literal) ↔ ∃ left right, FirstPair '=' text left right ∧
      IsTrimmed left fact ∧ (fact ≠ [] ∧ ∀ c ∈ fact, isFactChar c = true) ∧
      IsTrimmed right ('\'' :: (literal ++ ['\''])) ∧ '\'' ∉ literal := by
  simp only [readEquality?, Option.bind_eq_bind, Option.bind_eq_some_iff]
  constructor
  · rintro ⟨⟨left, right⟩, hcut, ⟨⟩, hguard, found, hunquote, heq⟩
    cases heq
    obtain ⟨hne, hchars⟩ := (Option.guard_eq_some' ()).1 hguard
    obtain ⟨hright, hquote⟩ := unquote?_eq_some_iff.1 hunquote
    exact ⟨left, right, cutAtPair?_eq_some_iff.1 hcut, isTrimmed_trim left,
      ⟨hne, List.all_eq_true.1 hchars⟩, isTrimmed_iff.2 hright, hquote⟩
  · rintro ⟨left, right, hpair, hleft, ⟨hne, hchars⟩, hright, hquote⟩
    refine ⟨(left, right), cutAtPair?_of_firstPair hpair, (), ?_, literal, ?_, ?_⟩
    · rw [hleft.trim_eq]
      exact (Option.guard_eq_some' ()).2 ⟨hne, List.all_eq_true.2 hchars⟩
    · rw [hright.trim_eq]
      exact unquote?_eq_some_iff.2 ⟨rfl, hquote⟩
    · rw [hleft.trim_eq]
      rfl

/-- A text that begins with a fact and ends with a quote has no blanks at its ends. -/
theorem bare_equality (hne : fact ≠ []) (hchars : ∀ c ∈ fact, isFactChar c = true)
    (left right : List Char) :
    Bare (fact ++ left ++ '=' :: '=' :: (right ++ '\'' :: (literal ++ ['\'']))) := by
  obtain ⟨c, rest, rfl⟩ := List.exists_cons_of_ne_nil hne
  have hfirst := isBlank_of_isFactChar (hchars c List.mem_cons_self)
  have hlast : isBlank '\'' = false := by decide
  have hbare := bare_cons_concat hfirst hlast
    (rest ++ left ++ '=' :: '=' :: (right ++ '\'' :: literal))
  simpa using hbare

end Characters

variable {fact literal : String}

/-- Whatever blanks stand around the parts they are found, and nothing else is read as an equality. -/
theorem isEquality_iff :
    IsEquality piece fact literal ↔
      readEquality? (trim piece) = some (fact.toList, literal.toList) := by
  rw [readEquality?_eq_some_iff]
  constructor
  · rintro ⟨⟨before, left, right, after, hpiece, hblank⟩, hne, hchars, hquote⟩
    simp only [List.forall_mem_append] at hblank
    obtain ⟨⟨⟨hbefore, hleft⟩, hright⟩, hafter⟩ := hblank
    have hfact : ∀ c ∈ fact.toList, isFactChar c = true :=
      fun c hc => isFactChar_iff.2 (hchars c hc)
    have hnonempty : fact.toList ≠ [] := by simpa using hne
    have htrim : trim piece =
        fact.toList ++ left ++ '=' :: '=' :: (right ++ '\'' :: (literal.toList ++ ['\''])) := by
      apply IsTrimmed.trim_eq
      exact .intro (by simpa using hpiece) hbefore hafter (bare_equality hnonempty hfact left right)
    -- No sign stands in a fact or among blanks, so the doubled one after them is the first.
    have hsigns : '=' ∉ fact.toList ++ left := by
      intro hmem
      obtain hmem | hmem := List.mem_append.1 hmem
      · exact ne_equals_of_isFactChar (hfact _ hmem) rfl
      · exact absurd (hleft _ hmem) (by decide)
    refine ⟨fact.toList ++ left, right ++ '\'' :: (literal.toList ++ ['\'']), ?_, ?_,
      ⟨hnonempty, hfact⟩, ?_, hquote⟩
    · rw [htrim]
      exact firstPair_of_notMem hsigns _
    · have hbare : Bare fact.toList := bare_of_forall fun c hc => isBlank_of_isFactChar (hfact c hc)
      exact .intro (by rw [List.nil_append]) (List.forall_mem_nil _) hleft hbare
    · have hbare : Bare ('\'' :: (literal.toList ++ ['\''])) :=
        bare_cons_concat (by decide) (by decide) literal.toList
      exact .intro (List.append_nil _).symm hright (List.forall_mem_nil _) hbare
  · rintro ⟨left, right, hpair, hleft, ⟨hne, hchars⟩, hright, hquote⟩
    obtain @⟨before, after, hpiece, hbefore, hafter, -⟩ := isTrimmed_trim piece
    obtain @⟨leftBefore, leftAfter, rfl, hleftBefore, hleftAfter, -⟩ := hleft
    obtain @⟨rightBefore, rightAfter, rfl, hrightBefore, hrightAfter, -⟩ := hright
    refine ⟨⟨before ++ leftBefore, leftAfter, rightBefore, rightAfter ++ after, ?_, ?_⟩, ?_, ?_,
      hquote⟩
    · rw [hpiece, hpair.text_eq]
      simp
    · simp only [List.forall_mem_append]
      exact ⟨⟨⟨⟨hbefore, hleftBefore⟩, hleftAfter⟩, hrightBefore⟩, hrightAfter, hafter⟩
    · simpa using hne
    · exact fun c hc => isFactChar_iff.1 (hchars c hc)

theorem IsEquality.unique {fact' literal' : String} (hequality : IsEquality piece fact literal)
    (hequality' : IsEquality piece fact' literal') : fact = fact' ∧ literal = literal' := by
  have hread := isEquality_iff.1 hequality
  rw [isEquality_iff.1 hequality'] at hread
  simp only [Option.some.injEq, Prod.mk.injEq, String.toList_inj] at hread
  exact ⟨hread.1.symm, hread.2.symm⟩

/-- Each piece is taken for one thing only, and that is what it is read as. -/
theorem reads_iff : Reads piece clause ↔ Clause.parse piece = clause := by
  constructor
  · intro hreads
    cases hreads with
    | equality hequality => simp [Clause.parse, isEquality_iff.1 hequality]
    | other hnone htrimmed =>
      have hread : readEquality? (trim piece) = none := by
        refine Option.eq_none_iff_forall_ne_some.2 fun ⟨fact, literal⟩ hsome => ?_
        exact hnone (.ofList fact) (.ofList literal) (isEquality_iff.2 (by simpa using hsome))
      obtain rfl := htrimmed.trim_eq
      simp [Clause.parse, hread]
  · rintro rfl
    cases hread : readEquality? (trim piece) with
    | some found =>
      obtain ⟨fact, literal⟩ := found
      have hequality : IsEquality piece (.ofList fact) (.ofList literal) :=
        isEquality_iff.2 (by simpa using hread)
      simpa [Clause.parse, hread] using Reads.equality hequality
    | none =>
      have hnone : ∀ fact literal, ¬ IsEquality piece fact literal := by
        intro fact literal hequality
        rw [isEquality_iff.1 hequality] at hread
        cases hread
      simpa [Clause.parse, hread] using Reads.other hnone (isTrimmed_trim piece)

/-- A piece that reads as an equality holds where its fact has its literal as value, and any other piece
holds nowhere. -/
theorem holds_parse_iff (facts : Fields) :
    (Clause.parse piece).holds facts = true ↔
      ∃ fact literal, IsEquality piece fact literal ∧ facts.get fact = literal := by
  constructor
  · intro hholds
    have hreads : Reads piece (Clause.parse piece) := reads_iff.2 rfl
    generalize Clause.parse piece = clause at hholds hreads
    cases hreads with
    | equality hequality => exact ⟨_, _, hequality, by simpa [holds] using hholds⟩
    | other => cases hholds
  · rintro ⟨fact, literal, hequality, hvalue⟩
    rw [reads_iff.1 (.equality hequality), holds, hvalue]
    exact beq_self_eq_true literal

end Clause

namespace Condition

/-- What the text of a condition says, given the pieces between its doubled bars. -/
structure Says (text : String) (pieces : List (List Char)) : Prop where
  /-- The bars are those of the leftmost cuts, also where they stand between quotes. -/
  only : ∀ other, IsSplit '|' text.toList other ↔ other = pieces
  /-- A fact without a value has the empty text. -/
  holds_iff : ∀ facts, (parse text).holds facts = true ↔
    (∀ c ∈ text.toList, isBlank c = true) ∨
      ∃ piece ∈ pieces, ∃ fact literal, Clause.IsEquality piece fact literal ∧
        (facts.get? fact).getD "" = literal
  unique : ∀ piece ∈ pieces, ∀ fact literal fact' literal',
    Clause.IsEquality piece fact literal → Clause.IsEquality piece fact' literal' →
      fact = fact' ∧ literal = literal'
  /-- Each piece is read on its own, so one that is no equality changes nothing for the others. -/
  clauses : ¬ (∀ c ∈ text.toList, isBlank c = true) →
    List.Forall₂ Clause.Reads pieces (parse text).clauses
  never : ∀ piece ∈ pieces, (∀ fact literal, ¬ Clause.IsEquality piece fact literal) →
    ∀ clause, Clause.Reads piece clause → ∀ facts, clause.holds facts = false
  /-- Only a blank text is the condition that always holds. -/
  isEmpty_iff : (parse text).isEmpty = true ↔ ∀ c ∈ text.toList, isBlank c = true

theorem parse_of_blank {text : String} (hblank : ∀ c ∈ text.toList, isBlank c = true) :
    parse text = always := by
  rw [parse, if_pos (trim_eq_nil_iff.2 hblank)]

theorem clauses_parse {text : String} (hsome : ¬ ∀ c ∈ text.toList, isBlank c = true) :
    (parse text).clauses = (splitOnPairs '|' text.toList).map Clause.parse := by
  rw [parse, if_neg (mt trim_eq_nil_iff.1 hsome)]

theorem isEmpty_parse_iff {text : String} :
    (parse text).isEmpty = true ↔ ∀ c ∈ text.toList, isBlank c = true := by
  constructor
  · intro hempty
    by_contra hsome
    have hclauses := clauses_parse hsome
    rw [List.isEmpty_iff.1 hempty, eq_comm, List.map_eq_nil_iff] at hclauses
    exact (isSplit_iff.2 hclauses).ne_nil rfl
  · intro hblank
    rw [parse_of_blank hblank]
    rfl

/-- A condition holds of exactly the facts that fit one of the equalities among its pieces, or of all if
its text is blank. -/
theorem parse_says (text : String) : Says text (splitOnPairs '|' text.toList) where
  only other := by rw [isSplit_iff, eq_comm]
  holds_iff := by
    intro facts
    rw [holds, Bool.or_eq_true, isEmpty_parse_iff]
    by_cases hblank : ∀ c ∈ text.toList, isBlank c = true
    · exact iff_of_true (.inl hblank) (.inl hblank)
    · rw [or_iff_right hblank, or_iff_right hblank, clauses_parse hblank, List.any_map,
        List.any_eq_true]
      exact exists_congr fun piece => and_congr_right fun _ => Clause.holds_parse_iff facts
  unique piece _ fact literal fact' literal' hequality hequality' := hequality.unique hequality'
  clauses := by
    intro hsome
    rw [clauses_parse hsome, List.forall₂_map_right_iff, List.forall₂_same]
    exact fun piece _ => Clause.reads_iff.2 rfl
  never := by
    intro piece _ hnone clause hreads facts
    cases hreads with
    | equality hequality => exact absurd hequality (hnone _ _)
    | other => rfl
  isEmpty_iff := isEmpty_parse_iff

/-- Neither a bar at the end nor bars between quotes leave a condition without clauses. -/
example : (parse "list == 'a||b' ||").clauses =
    [.malformed "list == 'a", .malformed "b'", .malformed ""] := by
  decide +kernel

end Condition

end EventRelay
