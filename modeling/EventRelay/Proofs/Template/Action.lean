import EventRelay.Template
import Mathlib.Data.List.Infix

namespace EventRelay.Template

open Text

/-- Whether a dash and a blank begin an action, and what is left without them. -/
inductive Leading (action : List Char) : Bool → List Char → Prop
  | marked {inner : List Char} (haction : action = ['-', ' '] ++ inner) : Leading action true inner
  | unmarked (hnone : ¬ ['-', ' '] <+: action) : Leading action false action

/-- Whether a blank and a dash end an action, and what is left without them. -/
inductive Trailing (action : List Char) : Bool → List Char → Prop
  | marked {inner : List Char} (haction : action = inner ++ [' ', '-']) : Trailing action true inner
  | unmarked (hnone : ¬ [' ', '-'] <:+ action) : Trailing action false action

/-- The markers of an action and the trimmed rest. The marker at the end is looked for in what the one
at the beginning has left. -/
inductive Unmarked (action : List Char) : Marked → Prop
  | intro {stripsBefore stripsAfter : Bool} {inner core : List Char}
      (hleading : Leading action stripsBefore inner) (htrailing : Trailing inner stripsAfter core) :
      Unmarked action ⟨stripsBefore, stripsAfter, trim core⟩

/-- The two signs may share their star. -/
structure IsComment (action : List Char) : Prop where
  opened : ['/', '*'] <+: action
  closed : ['*', '/'] <:+ action

/-- A dot, and then the names with a dot between each and the next. -/
structure IsPath (action : List Char) (names : List (List Char)) : Prop where
  action_eq : action = '.' :: ['.'].intercalate names
  names_ne_nil : names ≠ []
  name_ne_nil : ∀ name ∈ names, name ≠ []
  nameChar : ∀ name ∈ names, ∀ c ∈ name, isAlphanumeric c ∨ c = '_'

variable {action : List Char} {marked : Marked} {names : List (List Char)}

theorem exists_leading (action : List Char) : ∃ strips inner, Leading action strips inner := by
  by_cases hprefix : ['-', ' '] <+: action
  · obtain ⟨inner, hinner⟩ := hprefix
    exact ⟨true, inner, .marked hinner.symm⟩
  · exact ⟨false, action, .unmarked hprefix⟩

theorem exists_trailing (action : List Char) : ∃ strips inner, Trailing action strips inner := by
  by_cases hsuffix : [' ', '-'] <:+ action
  · obtain ⟨inner, hinner⟩ := hsuffix
    exact ⟨true, inner, .marked hinner.symm⟩
  · exact ⟨false, action, .unmarked hsuffix⟩

theorem isPrefixOf?_eq_none {part text : List Char} (hnone : ¬ part <+: text) :
    part.isPrefixOf? text = none := by
  rwa [← Option.not_isSome_iff_eq_none, List.isSome_isPrefixOf?_eq_isPrefixOf,
    List.isPrefixOf_iff_prefix]

theorem isSuffixOf?_eq_none {part text : List Char} (hnone : ¬ part <:+ text) :
    part.isSuffixOf? text = none := by
  rwa [← Option.not_isSome_iff_eq_none, List.isSome_isSuffixOf?_eq_isSuffixOf,
    List.isSuffixOf_iff_suffix]

theorem Leading.isPrefixOf?_eq {strips : Bool} {inner : List Char}
    (hleading : Leading action strips inner) :
    (strips = true ∧ ['-', ' '].isPrefixOf? action = some inner) ∨
      (strips = false ∧ inner = action ∧ ['-', ' '].isPrefixOf? action = none) := by
  cases hleading with
  | marked haction => exact .inl ⟨rfl, List.isPrefixOf?_eq_some_iff_append_eq.2 haction.symm⟩
  | unmarked hnone => exact .inr ⟨rfl, rfl, isPrefixOf?_eq_none hnone⟩

theorem Trailing.isSuffixOf?_eq {strips : Bool} {inner : List Char}
    (htrailing : Trailing action strips inner) :
    (strips = true ∧ [' ', '-'].isSuffixOf? action = some inner) ∨
      (strips = false ∧ inner = action ∧ [' ', '-'].isSuffixOf? action = none) := by
  cases htrailing with
  | marked haction => exact .inl ⟨rfl, List.isSuffixOf?_eq_some_iff_append_eq.2 haction.symm⟩
  | unmarked hnone => exact .inr ⟨rfl, rfl, isSuffixOf?_eq_none hnone⟩

theorem Unmarked.readMarkers_eq (hmarked : Unmarked action marked) : readMarkers action = marked := by
  obtain ⟨hleading, htrailing⟩ := hmarked
  obtain ⟨rfl, hprefix⟩ | ⟨rfl, rfl, hprefix⟩ := hleading.isPrefixOf?_eq <;>
  obtain ⟨rfl, hsuffix⟩ | ⟨rfl, rfl, hsuffix⟩ := htrailing.isSuffixOf?_eq <;>
  simp only [readMarkers, hprefix, hsuffix]

theorem Unmarked.unique {marked' : Marked} (hmarked : Unmarked action marked)
    (hmarked' : Unmarked action marked') : marked = marked' :=
  hmarked.readMarkers_eq.symm.trans hmarked'.readMarkers_eq

theorem unmarked_iff : Unmarked action marked ↔ readMarkers action = marked := by
  refine ⟨Unmarked.readMarkers_eq, ?_⟩
  rintro rfl
  obtain ⟨stripsBefore, inner, hleading⟩ := exists_leading action
  obtain ⟨stripsAfter, core, htrailing⟩ := exists_trailing inner
  have hmarked : Unmarked action _ := .intro hleading htrailing
  rwa [hmarked.readMarkers_eq]

theorem isComment_iff : IsComment action ↔ isComment action = true := by
  rw [isComment, Bool.and_eq_true, List.isPrefixOf_iff_prefix, List.isSuffixOf_iff_suffix]
  exact ⟨fun hcomment => ⟨hcomment.opened, hcomment.closed⟩, fun hsigns => ⟨hsigns.1, hsigns.2⟩⟩

theorem IsPath.not_isComment (hpath : IsPath action names) : ¬ IsComment action := by
  rintro ⟨⟨rest, hopened⟩, -⟩
  rw [hpath.action_eq] at hopened
  exact absurd (List.cons.inj hopened).1 (by decide)

theorem isAlphanumeric_dot : isAlphanumeric '.' = false := by
  decide +kernel

/-- A name holds no dot, so the dots of a path are those between its names. -/
theorem IsPath.splitOn_eq (hpath : IsPath action names) :
    (['.'].intercalate names).splitOn '.' = names := by
  refine List.splitOn_intercalate '.' ?_ hpath.names_ne_nil
  intro name hname hdot
  obtain hdot | hdot := hpath.nameChar name hname '.' hdot
  · rw [isAlphanumeric_dot] at hdot
    cases hdot
  · exact absurd hdot (by decide)

theorem isName_iff {name : List Char} :
    (!name.isEmpty && name.all isNameChar) = true ↔
      name ≠ [] ∧ ∀ c ∈ name, isAlphanumeric c ∨ c = '_' := by
  simp only [Bool.and_eq_true, Bool.not_eq_true', List.isEmpty_eq_false_iff, List.all_eq_true,
    isNameChar, Bool.or_eq_true, beq_iff_eq]

theorem isPath_iff : IsPath action names ↔ readPath? action = some names := by
  constructor
  · intro hpath
    rw [hpath.action_eq, readPath?, hpath.splitOn_eq]
    refine if_pos (List.all_eq_true.2 fun name hname => isName_iff.2 ?_)
    exact ⟨hpath.name_ne_nil name hname, hpath.nameChar name hname⟩
  · intro hread
    rw [readPath?.eq_def] at hread
    split at hread
    case h_1 path =>
      obtain ⟨hnames, heq⟩ := Option.ite_none_right_eq_some.1 hread
      cases heq
      have hname (name : List Char) (hmem : name ∈ path.splitOn '.') :=
        isName_iff.1 (List.all_eq_true.1 hnames name hmem)
      exact ⟨by rw [List.intercalate_splitOn], List.splitOn_ne_nil '.' path,
        fun name hmem => (hname name hmem).1, fun name hmem => (hname name hmem).2⟩
    case h_2 => cases hread

theorem readAction_of_isComment (hcomment : IsComment action) : readAction action = .ok none := by
  rw [readAction, if_pos (isComment_iff.1 hcomment)]

theorem readAction_of_isPath (hpath : IsPath action names) :
    readAction action = .ok (some (.field names)) := by
  rw [readAction, if_neg (mt isComment_iff.2 hpath.not_isComment), isPath_iff.1 hpath]

theorem readAction_of_neither (hcomment : ¬ IsComment action)
    (hpath : ∀ names, ¬ IsPath action names) : readAction action = .error (.unsupported action) := by
  have hnone : readPath? action = none :=
    Option.eq_none_iff_forall_ne_some.2 fun names => mt isPath_iff.2 (hpath names)
  rw [readAction, if_neg (mt isComment_iff.2 hcomment), hnone]

theorem exists_unmarked (action : List Char) :
    ∃ marked, Unmarked action marked ∧ (IsComment marked.action ∨
      (∃ names, IsPath marked.action names) ∨
        ¬ IsComment marked.action ∧ ∀ names, ¬ IsPath marked.action names) := by
  refine ⟨readMarkers action, unmarked_iff.2 rfl, ?_⟩
  by_cases hcomment : IsComment (readMarkers action).action
  · exact .inl hcomment
  by_cases hpath : ∃ names, IsPath (readMarkers action).action names
  · exact .inr (.inl hpath)
  · exact .inr (.inr ⟨hcomment, not_exists.1 hpath⟩)

end EventRelay.Template
