import EventRelay.Proofs.Template.Meaning

namespace EventRelay.Template

open Text

/-- A comment. The note may hold anything but the sign that closes actions. -/
def comment (note : List Char) : List Char :=
  ['{', '{', '/', '*'] ++ note ++ ['*', '/', '}', '}']

/-- A point in the literal text of a template, or at one of its ends: `front` stands before it and `back`
after it. -/
inductive LiteralPoint : List Char → List Char → List Char → Prop
  | last {front back : List Char} (hnone : NoPair '{' (front ++ back)) :
      LiteralPoint (front ++ back) front back
  | before {text front between inside : List Char}
      (hopen : FirstPair '{' text (front ++ between) inside) :
      LiteralPoint text front (between ++ '{' :: '{' :: inside)
  | after {text literal inside action later front back : List Char}
      (hopen : FirstPair '{' text literal inside) (hclose : FirstPair '}' inside action later)
      (hpoint : LiteralPoint later front back) :
      LiteralPoint text (literal ++ '{' :: '{' :: (action ++ '}' :: '}' :: front)) back

/-- Puts literal text before the first literal text. -/
def Cut.prepend (text : List Char) : Cut → Cut
  | .tail literal => .tail (text ++ literal)
  | .unclosed literal => .unclosed (text ++ literal)
  | .action literal body rest => .action (text ++ literal) body rest

/-- The last literal text of the one goes on in the first literal text of the other. -/
def Cut.append : Cut → Cut → Cut
  | .tail literal, parts => parts.prepend literal
  | .unclosed literal, _ => .unclosed literal
  | .action literal body rest, parts => .action literal body (rest.append parts)

/-- Whether a marker takes the blanks behind the parts. Only blanks stand between it and the end then. -/
def Cut.takesAfter (strips : Bool) : Cut → Bool
  | .tail literal => strips && literal.all isBlank
  | .unclosed _ => false
  | .action _ body rest => rest.takesAfter (readMarkers body).stripsAfter

/-- Whether a marker takes the blanks before the parts. Only blanks and comments stand before it then. -/
def Cut.takesBefore : Cut → Bool
  | .tail _ => false
  | .unclosed _ => false
  | .action literal body rest => literal.all isBlank &&
      ((readMarkers body).stripsBefore || isComment (readMarkers body).action && rest.takesBefore)

/-- The blanks right behind a point that a marker before it takes, unless one behind it takes them too. -/
def shielded (front back : List Char) : List Char :=
  if (cut front).takesAfter false && !(cut back).takesBefore then back.takeWhile isBlank else []

variable {text front back note literal inside action later : List Char} {parts rest : Cut}
  {document : Document} {fields : Fields}

theorem LiteralPoint.text_eq (hpoint : LiteralPoint text front back) : text = front ++ back := by
  induction hpoint with
  | last => rfl
  | before hopen => rw [hopen.text_eq, List.append_assoc]
  | after hopen hclose _ ih => rw [hopen.text_eq, hclose.text_eq, ih]; simp

/-- Literal text at the beginning joins the first literal text. -/
theorem cut_of_firstPair_append (hopen : FirstPair '{' text (front ++ literal) inside) :
    cut text = (cut (literal ++ '{' :: '{' :: inside)).prepend front := by
  obtain ⟨-, hnone, hlast⟩ := firstPair_iff.1 hopen
  have hopen' : FirstPair '{' (literal ++ '{' :: '{' :: inside) literal inside := by
    refine firstPair_iff.2 ⟨rfl, hnone.of_append.2, fun hliteral => hlast ?_⟩
    rw [List.getLast?_append, hliteral]
    rfl
  obtain hnone | ⟨action, later, hclose⟩ := noPair_or_exists_firstPair '}' inside
  · rw [cut_of_unclosed hopen hnone, cut_of_unclosed hopen' hnone, Cut.prepend]
  · rw [cut_of_action hopen hclose, cut_of_action hopen' hclose, Cut.prepend]

/-- A point in literal text cuts the parts in two. -/
theorem LiteralPoint.cut_eq (hpoint : LiteralPoint text front back) :
    cut text = (cut front).append (cut back) := by
  induction hpoint with
  | last hnone =>
    rw [cut_of_noPair hnone, cut_of_noPair hnone.of_append.1, cut_of_noPair hnone.of_append.2]
    rfl
  | before hopen =>
    have hnone := (firstPair_iff.1 hopen).2.1.of_append.1
    rw [cut_of_firstPair_append hopen, cut_of_noPair hnone]
    rfl
  | after hopen hclose hpoint ih =>
    rw [cut_of_action hopen hclose, cut_of_action (hopen.of_front _) (hclose.of_front _), ih]
    rfl

theorem literalPoint_of_noPair (hnone : NoPair '{' front) (hbrace : front.getLast? ≠ some '{')
    (inside : List Char) :
    LiteralPoint (front ++ '{' :: '{' :: inside) front ('{' :: '{' :: inside) := by
  have hopen : FirstPair '{' (front ++ '{' :: '{' :: inside) (front ++ []) inside := by
    rw [List.append_nil]
    exact firstPair_iff.2 ⟨rfl, hnone, hbrace⟩
  exact .before hopen

/-- An action can be put in at such a point, unless a brace stands before it. -/
theorem LiteralPoint.insert (hpoint : LiteralPoint text front back)
    (hbrace : front.getLast? ≠ some '{') (inside : List Char) :
    LiteralPoint (front ++ '{' :: '{' :: inside) front ('{' :: '{' :: inside) := by
  induction hpoint with
  | last hnone => exact literalPoint_of_noPair hnone.of_append.1 hbrace inside
  | before hopen =>
    exact literalPoint_of_noPair (firstPair_iff.1 hopen).2.1.of_append.1 hbrace inside
  | @after text literal inside' action later front back hopen hclose hpoint ih =>
    have hbrace' : front.getLast? ≠ some '{' := by
      intro hlast
      apply hbrace
      simp [List.getLast?_append, List.getLast?_cons, hlast]
    have hinner := LiteralPoint.after (hopen.of_front _) (hclose.of_front _) (ih hbrace')
    simpa using hinner

/-- What stands between the braces of a comment. -/
def commentBody (note : List Char) : List Char :=
  ['/', '*'] ++ note ++ ['*', '/']

theorem getLast?_commentBody (note : List Char) : (commentBody note).getLast? = some '/' := by
  have hbody : commentBody note = ['/', '*'] ++ note ++ ['*'] ++ ['/'] := by simp [commentBody]
  rw [hbody, List.getLast?_concat]

theorem comment_append (note back : List Char) :
    comment note ++ back = '{' :: '{' :: (commentBody note ++ '}' :: '}' :: back) := by
  simp [comment, commentBody]

/-- The sign that closes a comment is the first one in it. -/
theorem firstPair_commentBody (hnote : NoPair '}' note) (back : List Char) :
    FirstPair '}' (commentBody note ++ '}' :: '}' :: back) (commentBody note) back := by
  have hopening : NoPair '}' ['/', '*'] := noPair_of_notMem (by decide)
  have hclosing : NoPair '}' ['*', '/'] := noPair_of_notMem (by decide)
  have hbody : NoPair '}' (commentBody note) :=
    (hopening.append hnote (by simp)).append hclosing (by simp)
  exact firstPair_iff.2 ⟨rfl, hbody, by simp [getLast?_commentBody]⟩

theorem cut_comment (hnote : NoPair '}' note) (back : List Char) :
    cut (comment note ++ back) = .action [] (commentBody note) (cut back) := by
  rw [comment_append]
  exact cut_of_action (firstPair_head _) (firstPair_commentBody hnote back)

theorem stands_commentBody (note : List Char) : Stands (commentBody note) ⟨false, false, none⟩ := by
  have hleading : ¬ ['-', ' '] <+: commentBody note := by
    rintro ⟨rest, hrest⟩
    exact absurd (List.cons.inj hrest).1 (by decide)
  have htrailing : ¬ [' ', '-'] <:+ commentBody note := by
    rintro ⟨rest, hrest⟩
    have hlast := congrArg List.getLast? hrest
    simp [getLast?_commentBody] at hlast
  have hbare : Bare (commentBody note) := by
    have hslash : isBlank '/' = false := by decide
    have hbare := bare_cons_concat hslash hslash ('*' :: (note ++ ['*']))
    simpa [commentBody] using hbare
  have hmarked : Unmarked (commentBody note) ⟨false, false, commentBody note⟩ := by
    have hmarked := Unmarked.intro (.unmarked hleading) (.unmarked htrailing)
    rwa [hbare.trim_eq] at hmarked
  have hcomment : IsComment (commentBody note) :=
    ⟨⟨note ++ ['*', '/'], by simp [commentBody]⟩, ⟨['/', '*'] ++ note, by simp [commentBody]⟩⟩
  exact .comment hmarked hcomment

def Document.prepend (text : List Char) : Document → Document
  | .last literal => .last (text ++ literal)
  | .action literal part rest => .action (text ++ literal) part rest

def Document.append : Document → Document → Document
  | .last literal, document => document.prepend literal
  | .action literal part rest, document => .action literal part (rest.append document)

theorem reads_prepend_iff :
    Reads (parts.prepend text) document ↔
      ∃ inner, Reads parts inner ∧ document = inner.prepend text := by
  constructor
  · intro hreads
    cases parts with
    | tail =>
      cases hreads
      exact ⟨_, .last, rfl⟩
    | unclosed => cases hreads
    | action =>
      cases hreads with
      | action hpart hrest => exact ⟨_, .action hpart hrest, rfl⟩
  · rintro ⟨inner, hreads, rfl⟩
    cases hreads with
    | last => exact .last
    | action hpart hrest => exact .action hpart hrest

/-- Parts that meet in literal text read as what they read as on their own. -/
theorem reads_append_iff {before after : Cut} :
    Reads (before.append after) document ↔
      ∃ first last, Reads before first ∧ Reads after last ∧ document = first.append last := by
  induction before generalizing document with
  | tail literal =>
    rw [Cut.append, reads_prepend_iff]
    constructor
    · rintro ⟨last, hlast, rfl⟩
      exact ⟨_, last, .last, hlast, rfl⟩
    · rintro ⟨first, last, hfirst, hlast, rfl⟩
      cases hfirst
      exact ⟨last, hlast, rfl⟩
  | unclosed literal =>
    constructor
    · intro hreads
      cases hreads
    · rintro ⟨first, last, hfirst, -⟩
      cases hfirst
  | action literal body rest ih =>
    constructor
    · intro hreads
      cases hreads with
      | action hpart hrest =>
        obtain ⟨first, last, hfirst, hlast, rfl⟩ := ih.1 hrest
        exact ⟨_, last, .action hpart hfirst, hlast, rfl⟩
    · rintro ⟨first, last, hfirst, hlast, rfl⟩
      cases hfirst with
      | action hpart hrest => exact .action hpart (ih.2 ⟨_, _, hrest, hlast, rfl⟩)

theorem Stands.takesBefore_eq {part : Part} (hpart : Stands action part) (reached : Bool) :
    ((readMarkers action).stripsBefore || isComment (readMarkers action).action && reached) =
      part.strips reached := by
  cases hpart with
  | comment hmarked hcomment =>
    rw [hmarked.readMarkers_eq, isComment_iff.1 hcomment]
    rfl
  | field hmarked hpath =>
    rw [hmarked.readMarkers_eq, Bool.eq_false_iff.2 (mt isComment_iff.2 hpath.not_isComment)]
    rfl

theorem Stands.stripsAfter_eq {part : Part} (hpart : Stands action part) :
    (readMarkers action).stripsAfter = part.stripsAfter := by
  cases hpart with
  | comment hmarked => rw [hmarked.readMarkers_eq]
  | field hmarked => rw [hmarked.readMarkers_eq]

theorem Reads.takesBefore_eq (hreads : Reads parts document) :
    parts.takesBefore = document.isReached := by
  induction hreads with
  | last => rfl
  | action hpart _ ih => rw [Cut.takesBefore, ih, hpart.takesBefore_eq, Document.isReached]

theorem strippedStartIf_append (strips : Bool) (before text : List Char) :
    strippedStartIf strips (before ++ text) =
      strippedStartIf strips before ++ strippedStartIf (strips && before.all isBlank) text := by
  cases strips with
  | false => rfl
  | true => exact trimStart_append before text

theorem Document.isReached_prepend (text : List Char) (document : Document) :
    (document.prepend text).isReached = (text.all isBlank && document.isReached) := by
  cases document with
  | last => simp [prepend, isReached]
  | action => simp only [prepend, isReached, List.all_append, Bool.and_assoc]

theorem Document.text_prepend (fields : Fields) (strips : Bool) (text : List Char)
    (document : Document) :
    (document.prepend text).text fields strips =
      strippedEndIf document.isReached (strippedStartIf strips text) ++
        document.text fields (strips && text.all isBlank) := by
  cases document with
  | last => rw [prepend, Document.text, strippedStartIf_append]; rfl
  | action literal part rest =>
    simp only [prepend, Document.text, isReached, strippedStartIf_append, strippedEndIf_append,
      all_isBlank_strippedStartIf, List.append_assoc]

/-- What comes before a point is filled in alike whatever comes after it, as long as the same blanks are
taken from its end. -/
theorem Reads.exists_text_append {before : Cut} {first : Document} (hreads : Reads before first)
    (fields : Fields) (strips reached : Bool) : ∃ front reached', ∀ last : Document,
      last.isReached = reached → (first.append last).isReached = reached' ∧
        (first.append last).text fields strips =
          front ++ last.text fields (before.takesAfter strips) := by
  induction hreads generalizing strips with
  | @last literal =>
    refine ⟨strippedEndIf reached (strippedStartIf strips literal), literal.all isBlank && reached, ?_⟩
    rintro last rfl
    exact ⟨Document.isReached_prepend literal last, Document.text_prepend fields strips literal last⟩
  | @action literal action part rest document hpart hrest ih =>
    obtain ⟨front, reached', hrest⟩ := ih part.stripsAfter
    refine ⟨strippedEndIf (part.strips reached') (strippedStartIf strips literal) ++ part.value fields ++
      front, literal.all isBlank && part.strips reached', fun last hlast => ?_⟩
    obtain ⟨hreached, htext⟩ := hrest last hlast
    rw [Document.append, Document.isReached, Document.text, hreached, htext, Cut.takesAfter,
      hpart.stripsAfter_eq]
    exact ⟨rfl, (List.append_assoc ..).symm⟩

/-- The blanks at the beginning of a literal text are lost with its last ones only if it is blank. -/
theorem strippedEndIf_eq (strips : Bool) (text : List Char) :
    strippedEndIf strips text =
      (if text.all isBlank && strips then [] else text.takeWhile isBlank) ++
        strippedEndIf strips (trimStart text) := by
  have hsplit : strippedEndIf strips (text.takeWhile isBlank ++ trimStart text) =
      strippedEndIf (text.all isBlank && strips) (text.takeWhile isBlank) ++
        strippedEndIf strips (trimStart text) := by
    rw [strippedEndIf_append, all_isBlank_trimStart]
  have htext : text.takeWhile isBlank ++ trimStart text = text := List.takeWhile_append_dropWhile
  rw [htext] at hsplit
  rw [hsplit]
  congr 1
  split
  case isTrue hlost => rw [hlost]; exact trimEnd_of_blank List.all_takeWhile
  case isFalse hkept => rw [Bool.eq_false_iff.2 hkept]; rfl

theorem takeWhile_isBlank_append_brace (literal rest : List Char) :
    (literal ++ '{' :: rest).takeWhile isBlank = literal.takeWhile isBlank := by
  have hbrace : isBlank '{' = false := by decide
  induction literal with
  | nil => simp [hbrace]
  | cons c literal ih => simp only [List.cons_append, List.takeWhile_cons, ih]

/-- Without a marker before a text its first blanks stay, unless a marker in it takes them. -/
theorem text_eq_blanks_append (hreads : Reads (cut back) document) (fields : Fields) :
    document.text fields false =
      (if document.isReached then [] else back.takeWhile isBlank) ++ document.text fields true := by
  obtain hcut : IsCut back (cut back) := isCut_iff.2 rfl
  generalize cut back = parts at hreads hcut
  cases hreads with
  | last =>
    cases hcut
    exact List.takeWhile_append_dropWhile.symm
  | @action literal action part rest document hpart hrest =>
    cases hcut with
    | action hopen hclose =>
      have hblanks : back.takeWhile isBlank = literal.takeWhile isBlank := by
        rw [hopen.text_eq, takeWhile_isBlank_append_brace]
      have hliteral : strippedEndIf (part.strips document.isReached) (strippedStartIf false literal) =
          (if literal.all isBlank && part.strips document.isReached then []
            else literal.takeWhile isBlank) ++
          strippedEndIf (part.strips document.isReached) (strippedStartIf true literal) :=
        strippedEndIf_eq _ literal
      rw [hblanks, Document.text, hliteral, Document.text, Document.isReached]
      simp only [List.append_assoc]

/-- A comment comes between a marker and a blank that no other marker takes. -/
structure Shields (front back : List Char) : Prop where
  taken : (cut front).takesAfter false = true
  blank : ∃ c ∈ back.head?, isBlank c = true
  kept : (cut back).takesBefore = false

theorem shielded_ne_nil_iff : shielded front back ≠ [] ↔ Shields front back := by
  have hblank : back.takeWhile isBlank ≠ [] ↔ ∃ c ∈ back.head?, isBlank c = true := by
    cases back <;> simp [List.takeWhile_cons]
  rw [shielded]
  constructor
  · intro hne
    obtain ⟨hboth, hblanks⟩ := (ite_ne_right_iff.1 hne)
    rw [Bool.and_eq_true, Bool.not_eq_true'] at hboth
    exact ⟨hboth.1, hblank.1 hblanks, hboth.2⟩
  · rintro ⟨htaken, hhead, hkept⟩
    rw [htaken, hkept]
    exact hblank.2 hhead

/-- What a comment at a point of a template does to the rendered text. -/
structure Commented (source : String) (front back note : List Char) (fields : Fields)
    (text : List Char) : Prop where
  source_eq : source.toList = front ++ back
  /-- The template can still be rendered, and nothing is added to its text but what the comment
  shields. -/
  adds : ∃ before after, text = before ++ after ∧
    evaluate (front ++ comment note ++ back) fields = .ok (before ++ shielded front back ++ after)
  invisible_iff : render (String.ofList (front ++ comment note ++ back)) fields = render source fields ↔
    ¬ Shields front back

theorem LiteralPoint.cut_commented (hpoint : LiteralPoint text front back)
    (hbrace : front.getLast? ≠ some '{') (hnote : NoPair '}' note) :
    cut (front ++ comment note ++ back) =
      (cut front).append (.action [] (commentBody note) (cut back)) := by
  have hinsert := hpoint.insert hbrace (commentBody note ++ '}' :: '}' :: back)
  rw [← comment_append] at hinsert
  rw [List.append_assoc, hinsert.cut_eq, cut_comment hnote]

theorem isReached_comment (document : Document) :
    (Document.action [] ⟨false, false, none⟩ document).isReached = document.isReached := by
  simp [Document.isReached, Part.strips]

theorem text_comment (fields : Fields) (strips : Bool) (document : Document) :
    (Document.action [] ⟨false, false, none⟩ document).text fields strips =
      document.text fields false := by
  have hnil : strippedStartIf strips [] = [] := by cases strips <;> rfl
  rw [Document.text, hnil, strippedEndIf_nil]
  rfl

theorem render_eq_of_evaluate {source : String} (hevaluate : evaluate source.toList fields = .ok text) :
    render source fields = String.ofList text := by
  rw [render, hevaluate]

/-- A comment is an action, so that a marker before it takes the blanks up to it and not those behind it.
Everything else is as without it. -/
theorem commented_of_point {source : String} (hpoint : LiteralPoint source.toList front back)
    (hbrace : front.getLast? ≠ some '{') (hnote : NoPair '}' note)
    (hrenders : evaluate source.toList fields = .ok text) :
    Commented source front back note fields text := by
  obtain ⟨document, hreads, rfl⟩ := exists_reads_of_evaluate hrenders
  rw [hpoint.cut_eq, reads_append_iff] at hreads
  obtain ⟨first, last, hfirst, hlast, rfl⟩ := hreads
  obtain ⟨before, reached, hbefore⟩ := hfirst.exists_text_append fields false last.isReached
  have htext := (hbefore last rfl).2
  have hshielded : last.text fields false =
      shielded front back ++ last.text fields ((cut front).takesAfter false) := by
    rw [shielded, hlast.takesBefore_eq]
    cases (cut front).takesAfter false with
    | false => rfl
    | true =>
      rw [text_eq_blanks_append hlast fields]
      cases last.isReached <;> rfl
  have hcommented : Reads (cut (front ++ comment note ++ back))
      (first.append (.action [] ⟨false, false, none⟩ last)) := by
    rw [hpoint.cut_commented hbrace hnote, reads_append_iff]
    exact ⟨first, _, hfirst, .action (stands_commentBody note) hlast, rfl⟩
  have hevaluate : evaluate (front ++ comment note ++ back) fields =
      .ok (before ++ shielded front back ++ last.text fields ((cut front).takesAfter false)) := by
    rw [hcommented.evaluate_eq fields, (hbefore _ (isReached_comment last)).2, text_comment,
      hshielded, List.append_assoc]
  refine ⟨hpoint.text_eq, ⟨before, _, htext, hevaluate⟩, ?_⟩
  rw [← shielded_ne_nil_iff, not_not, render_eq_of_evaluate hrenders, htext,
    render_eq_of_evaluate (by rwa [String.toList_ofList]), String.ofList_inj]
  simp

/-- The comment comes between two markers. The one behind it takes the blanks that the one before it would
have taken. -/
theorem commented_of_point_between_markers :
    LiteralPoint "\x7b\x7b.A -\x7d\x7d  \x7b\x7b- .A\x7d\x7d".toList
        "\x7b\x7b.A -\x7d\x7d ".toList " \x7b\x7b- .A\x7d\x7d".toList ∧
      evaluate "\x7b\x7b.A -\x7d\x7d  \x7b\x7b- .A\x7d\x7d".toList ⟨[("A", "1")]⟩ =
        .ok "11".toList ∧
      Commented "\x7b\x7b.A -\x7d\x7d  \x7b\x7b- .A\x7d\x7d" "\x7b\x7b.A -\x7d\x7d ".toList
        " \x7b\x7b- .A\x7d\x7d".toList "c".toList ⟨[("A", "1")]⟩ "11".toList := by
  have hlater : FirstPair '{' "  \x7b\x7b- .A\x7d\x7d".toList ([' '] ++ [' '])
      "- .A\x7d\x7d".toList := firstPair_of_notMem (show '{' ∉ [' ', ' '] by decide) _
  have hclose : FirstPair '}' ".A -\x7d\x7d  \x7b\x7b- .A\x7d\x7d".toList ".A -".toList
      "  \x7b\x7b- .A\x7d\x7d".toList :=
    firstPair_of_notMem (show '}' ∉ ".A -".toList by decide) _
  have hpoint : LiteralPoint "\x7b\x7b.A -\x7d\x7d  \x7b\x7b- .A\x7d\x7d".toList
      "\x7b\x7b.A -\x7d\x7d ".toList " \x7b\x7b- .A\x7d\x7d".toList :=
    .after (firstPair_head _) hclose (.before hlater)
  have hrenders : evaluate "\x7b\x7b.A -\x7d\x7d  \x7b\x7b- .A\x7d\x7d".toList
      ⟨[("A", "1")]⟩ = .ok "11".toList := by decide +kernel
  exact ⟨hpoint, hrenders,
    commented_of_point hpoint (by decide) (noPair_of_notMem (by decide)) hrenders⟩

/-- Blanks that are trimmed without the comment are rendered with it. -/
theorem not_forall_comment_invisible :
    ¬ ∀ (source : String) (front back note : List Char) (fields : Fields) (text : List Char),
      LiteralPoint source.toList front back → front.getLast? ≠ some '{' → NoPair '}' note →
        evaluate source.toList fields = .ok text →
          render (String.ofList (front ++ comment note ++ back)) fields = render source fields := by
  intro hinvisible
  have hclose : FirstPair '}' ".A -\x7d\x7d b".toList ".A -".toList " b".toList :=
    firstPair_of_notMem (show '}' ∉ ".A -".toList by decide) _
  have hpoint : LiteralPoint "\x7b\x7b.A -\x7d\x7d b".toList "\x7b\x7b.A -\x7d\x7d".toList
      " b".toList :=
    .after (firstPair_head _) hclose (@LiteralPoint.last [] _ (noPair_of_notMem (by decide)))
  have hrender := hinvisible _ _ _ " c ".toList ⟨[("A", "1")]⟩ "1b".toList hpoint (by decide)
    (noPair_of_notMem (by decide)) (by decide +kernel)
  revert hrender
  decide +kernel

end EventRelay.Template
