import EventRelay.Proofs.Except
import EventRelay.Proofs.Template.Action
import EventRelay.Proofs.Template.Cut
import EventRelay.Proofs.Text.Trim

namespace EventRelay.Template

open Text

/-- An action that can be filled in: what its markers strip, and the name of its field. A comment has
no field. -/
structure Part where
  stripsBefore : Bool
  stripsAfter : Bool
  field? : Option (List Char)
  deriving DecidableEq, Repr

/-- A template without faults: literal texts with actions between them. -/
inductive Document
  | last (literal : List Char)
  | action (literal : List Char) (part : Part) (rest : Document)
  deriving DecidableEq, Repr

/-- A comment, or the path of a single field. -/
inductive Stands (action : List Char) : Part → Prop
  | comment {marked : Marked} (hmarked : Unmarked action marked) (hcomment : IsComment marked.action) :
      Stands action ⟨marked.stripsBefore, marked.stripsAfter, none⟩
  | field {marked : Marked} {name : List Char} (hmarked : Unmarked action marked)
      (hpath : IsPath marked.action [name]) :
      Stands action ⟨marked.stripsBefore, marked.stripsAfter, some name⟩

inductive Reads : Cut → Document → Prop
  | last {literal : List Char} : Reads (.tail literal) (.last literal)
  | action {literal action : List Char} {part : Part} {rest : Cut} {document : Document}
      (hpart : Stands action part) (hrest : Reads rest document) :
      Reads (.action literal action rest) (.action literal part document)

/-- The faults of a template. Any action may have one, whatever the actions around it are. -/
inductive Broken : Cut → Prop
  | unclosed {literal : List Char} : Broken (.unclosed literal)
  | unsupported {literal action : List Char} {rest : Cut} {marked : Marked}
      (hmarked : Unmarked action marked) (hcomment : ¬ IsComment marked.action)
      (hpath : ∀ names, ¬ IsPath marked.action names) : Broken (.action literal action rest)
  | nested {literal action : List Char} {rest : Cut} {marked : Marked} {names : List (List Char)}
      (hmarked : Unmarked action marked) (hpath : IsPath marked.action names)
      (hnested : 2 ≤ names.length) : Broken (.action literal action rest)
  | later {literal action : List Char} {rest : Cut} (hrest : Broken rest) :
      Broken (.action literal action rest)

/-- A literal text without the blanks at its beginning, if a marker takes them. -/
def strippedStartIf (strips : Bool) (literal : List Char) : List Char :=
  if strips then literal.dropWhile isBlank else literal

/-- The same for the blanks at its end. -/
def strippedEndIf (strips : Bool) (literal : List Char) : List Char :=
  if strips then literal.rdropWhile isBlank else literal

/-- Whether the blanks right before an action are lost, if `reached` says whether those right after it
are. Its own marker takes them, or one that reaches them across a comment; a field stands in the way. -/
def Part.strips (part : Part) (reached : Bool) : Bool :=
  part.stripsBefore || part.field?.isNone && reached

/-- Whether a marker reaches back to the beginning of a document. Only blanks and comments stand
before it then. -/
def Document.isReached : Document → Bool
  | .last _ => false
  | .action literal part rest => literal.all isBlank && part.strips rest.isReached

/-- The value of the field, as it is. A comment has none, and neither does a field that is absent. -/
def Part.value (fields : Fields) (part : Part) : List Char :=
  match part.field? with
  | none => []
  | some name => ((fields.get? (String.ofList name)).getD "").toList

/-- The literal texts and the values, in order. `strips` says whether the first literal text follows a
marker that takes its leading blanks. -/
def Document.text (fields : Fields) (strips : Bool) : Document → List Char
  | .last literal => strippedStartIf strips literal
  | .action literal part rest =>
    strippedEndIf (part.strips rest.isReached) (strippedStartIf strips literal) ++
      part.value fields ++ rest.text fields part.stripsAfter

variable {parts rest : Cut} {document : Document} {literal action buffer text : List Char}
  {names : List (List Char)} {marked : Marked} {strips : Bool} {offset : Nat} {fields : Fields}

theorem strippedEndIf_append (strips : Bool) (before text : List Char) :
    strippedEndIf strips (before ++ text) =
      strippedEndIf (text.all isBlank && strips) before ++ strippedEndIf strips text := by
  cases strips with
  | false => rw [Bool.and_false]; rfl
  | true => rw [Bool.and_true]; exact trimEnd_append before text

theorem strippedEndIf_strippedEndIf (strips again : Bool) (text : List Char) :
    strippedEndIf again (strippedEndIf strips text) = strippedEndIf (strips || again) text := by
  cases strips with
  | false => rfl
  | true =>
    cases again with
    | false => rfl
    | true => exact trimEnd_trimEnd text

theorem strippedEndIf_nil (strips : Bool) : strippedEndIf strips [] = [] := by
  cases strips <;> rfl

theorem all_isBlank_strippedStartIf (strips : Bool) (literal : List Char) :
    (strippedStartIf strips literal).all isBlank = literal.all isBlank := by
  cases strips with
  | false => rfl
  | true => exact all_isBlank_trimStart literal

/-- The place behind an action, if its literal text begins at `offset`. -/
def offsetAfter (offset : Nat) (literal action : List Char) : Nat :=
  offset + byteLength literal + 2 + byteLength action + 2

theorem assemble_of_isComment (hmarked : Unmarked action marked) (hcomment : IsComment marked.action) :
    assemble strips buffer offset (.action literal action rest) =
      assemble marked.stripsAfter
        (strippedEndIf marked.stripsBefore (buffer ++ strippedStartIf strips literal))
        (offsetAfter offset literal action) rest := by
  rw [assemble, hmarked.readMarkers_eq]
  simp only [readAction_of_isComment hcomment]
  rfl

theorem assemble_of_isPath (hmarked : Unmarked action marked) (hpath : IsPath marked.action names) :
    assemble strips buffer offset (.action literal action rest) =
      (fun tail => literalSegment
        (strippedEndIf marked.stripsBefore (buffer ++ strippedStartIf strips literal)) ++
          .field names :: tail) <$>
        assemble marked.stripsAfter [] (offsetAfter offset literal action) rest := by
  rw [assemble, hmarked.readMarkers_eq]
  simp only [readAction_of_isPath hpath]
  rfl

theorem assemble_of_neither (hmarked : Unmarked action marked) (hcomment : ¬ IsComment marked.action)
    (hpath : ∀ names, ¬ IsPath marked.action names) :
    assemble strips buffer offset (.action literal action rest) =
      .error (.unsupported marked.action) := by
  rw [assemble, hmarked.readMarkers_eq]
  simp only [readAction_of_neither hcomment hpath]
  rfl

/-- The text of the parts, where `buffer` is the literal text since the last field. -/
def fill (fields : Fields) (strips : Bool) (buffer : List Char) (offset : Nat) (parts : Cut) :
    Except Error (List Char) :=
  assemble strips buffer offset parts >>= execute fields

theorem execute_cons_eq_ok {segment : Segment} {segments : List Segment} :
    execute fields (segment :: segments) = .ok text ↔
      ∃ value, segment.expand fields = .ok value ∧
        ∃ tail, execute fields segments = .ok tail ∧ value ++ tail = text := by
  simp only [execute, bind_pure_comp, bind_eq_ok, map_eq_ok]

/-- An empty text has no segment, and needs none. -/
theorem execute_literalSegment_append {before : List Char} {segments : List Segment} :
    execute fields (literalSegment before ++ segments) = .ok text ↔
      ∃ tail, execute fields segments = .ok tail ∧ before ++ tail = text := by
  rw [literalSegment]
  split
  case isTrue hempty =>
    subst hempty
    simp
  case isFalse =>
    rw [List.singleton_append, execute_cons_eq_ok]
    simp [Segment.expand]

theorem fill_tail : fill fields strips buffer offset (.tail literal) =
    .ok (buffer ++ strippedStartIf strips literal) := by
  rw [fill, assemble, bind_eq_ok]
  refine ⟨_, rfl, ?_⟩
  rw [← List.append_nil (literalSegment _), execute_literalSegment_append]
  exact ⟨[], rfl, List.append_nil _⟩

theorem fill_of_isComment (hmarked : Unmarked action marked) (hcomment : IsComment marked.action) :
    fill fields strips buffer offset (.action literal action rest) =
      fill fields marked.stripsAfter
        (strippedEndIf marked.stripsBefore (buffer ++ strippedStartIf strips literal))
        (offsetAfter offset literal action) rest := by
  rw [fill, assemble_of_isComment hmarked hcomment, fill]

theorem fill_of_isPath (hmarked : Unmarked action marked) (hpath : IsPath marked.action names) :
    fill fields strips buffer offset (.action literal action rest) = .ok text ↔
      ∃ value, (Segment.field names).expand fields = .ok value ∧
        ∃ tail, fill fields marked.stripsAfter [] (offsetAfter offset literal action) rest = .ok tail ∧
          strippedEndIf marked.stripsBefore (buffer ++ strippedStartIf strips literal) ++
            (value ++ tail) = text := by
  simp only [fill, assemble_of_isPath hmarked hpath, bind_eq_ok, map_eq_ok]
  constructor
  · rintro ⟨_, ⟨segments, hsegments, rfl⟩, htext⟩
    obtain ⟨_, hrest, rfl⟩ := execute_literalSegment_append.1 htext
    obtain ⟨value, hvalue, tail, htail, rfl⟩ := execute_cons_eq_ok.1 hrest
    exact ⟨value, hvalue, tail, ⟨segments, hsegments, htail⟩, rfl⟩
  · rintro ⟨value, hvalue, tail, ⟨segments, hsegments, htail⟩, rfl⟩
    exact ⟨_, ⟨segments, hsegments, rfl⟩, execute_literalSegment_append.2
      ⟨_, execute_cons_eq_ok.2 ⟨value, hvalue, tail, htail, rfl⟩, rfl⟩⟩

theorem fill_of_neither (hmarked : Unmarked action marked) (hcomment : ¬ IsComment marked.action)
    (hpath : ∀ names, ¬ IsPath marked.action names) :
    fill fields strips buffer offset (.action literal action rest) =
      .error (.unsupported marked.action) := by
  rw [fill, assemble_of_neither hmarked hcomment hpath]
  rfl

/-- The buffer loses its last blanks exactly if a marker in the document reaches it. -/
theorem Reads.fill_eq (hreads : Reads parts document) (fields : Fields) (strips : Bool)
    (buffer : List Char) (offset : Nat) :
    fill fields strips buffer offset parts =
      .ok (strippedEndIf document.isReached buffer ++ document.text fields strips) := by
  induction hreads generalizing strips buffer offset with
  | last => exact fill_tail
  | @action literal action part rest document hpart hrest ih =>
    obtain ⟨hmarked, hcomment⟩ | ⟨hmarked, hpath⟩ := hpart
    · rw [fill_of_isComment hmarked hcomment, ih, strippedEndIf_strippedEndIf, strippedEndIf_append,
        all_isBlank_strippedStartIf]
      simp only [Document.isReached, Document.text, Part.strips, Part.value, Option.isNone_none,
        Bool.true_and, List.append_nil, List.append_assoc]
    · refine (fill_of_isPath hmarked hpath).2 ⟨_, rfl, _, ih _ _ _, ?_⟩
      rw [strippedEndIf_nil, strippedEndIf_append, all_isBlank_strippedStartIf]
      simp only [Document.isReached, Document.text, Part.strips, Part.value, Option.isNone_some,
        Bool.false_and, Bool.or_false, List.nil_append, List.append_assoc, Fields.get]

/-- No fault is passed over, not even one in an action after those that could be filled in. -/
theorem Broken.fill_ne_ok (hbroken : Broken parts) (fields : Fields) (strips : Bool)
    (buffer : List Char) (offset : Nat) (text : List Char) :
    fill fields strips buffer offset parts ≠ .ok text := by
  intro hfill
  induction hbroken generalizing strips buffer offset text with
  | unclosed => cases hfill
  | unsupported hmarked hcomment hpath =>
    rw [fill_of_neither hmarked hcomment hpath] at hfill
    cases hfill
  | @nested literal action rest marked names hmarked hpath hnested =>
    obtain ⟨value, hvalue, -⟩ := (fill_of_isPath hmarked hpath).1 hfill
    match names, hnested with
    | _ :: _ :: _, _ => cases hvalue
  | @later literal action rest hrest ih =>
    obtain ⟨marked, hmarked, hcomment | ⟨names, hpath⟩ | ⟨hcomment, hpath⟩⟩ := exists_unmarked action
    · rw [fill_of_isComment hmarked hcomment] at hfill
      exact ih _ _ _ _ hfill
    · obtain ⟨_, _, tail, htail, _⟩ := (fill_of_isPath hmarked hpath).1 hfill
      exact ih _ _ _ _ htail
    · rw [fill_of_neither hmarked hcomment hpath] at hfill
      cases hfill

theorem broken_or_reads (parts : Cut) : Broken parts ∨ ∃ document, Reads parts document := by
  induction parts with
  | tail literal => exact .inr ⟨_, .last⟩
  | unclosed literal => exact .inl .unclosed
  | action literal action rest ih =>
    obtain hrest | ⟨document, hrest⟩ := ih
    · exact .inl (.later hrest)
    obtain ⟨marked, hmarked, hcomment | ⟨names, hpath⟩ | ⟨hcomment, hpath⟩⟩ := exists_unmarked action
    · exact .inr ⟨_, .action (.comment hmarked hcomment) hrest⟩
    · match names, hpath.names_ne_nil with
      | [name], _ => exact .inr ⟨_, .action (.field hmarked hpath) hrest⟩
      | _ :: _ :: _, _ => exact .inl (.nested hmarked hpath (Nat.le_add_left 2 _))
    · exact .inl (.unsupported hmarked hcomment hpath)

theorem Reads.evaluate_eq {source : List Char} (hreads : Reads (cut source) document)
    (fields : Fields) : evaluate source fields = .ok (document.text fields false) := by
  have hfill := hreads.fill_eq fields false [] 0
  rwa [strippedEndIf_nil, List.nil_append] at hfill

/-- What can be evaluated can be read. -/
theorem exists_reads_of_evaluate {source : List Char} (hevaluate : evaluate source fields = .ok text) :
    ∃ document, Reads (cut source) document ∧ text = document.text fields false := by
  obtain hbroken | ⟨document, hreads⟩ := broken_or_reads (cut source)
  · exact absurd hevaluate (hbroken.fill_ne_ok fields false [] 0 text)
  · exact ⟨document, hreads, Except.ok.inj (hevaluate.symm.trans (hreads.evaluate_eq fields))⟩

/-- What is rendered from a template with given parts. -/
structure Rendered (source : String) (parts : Cut) : Prop where
  only : ∀ other, IsCut source.toList other ↔ other = parts
  broken_iff : Broken parts ↔ ¬ ∃ document, Reads parts document
  /-- A template with a fault is not filled in at all. -/
  broken : Broken parts → ∀ fields, render source fields = source
  filled : ∀ document, Reads parts document →
    ∀ fields, render source fields = String.ofList (document.text fields false)

/-- A template is cut in one way only. If it has a fault anywhere it stands for itself, and otherwise for
the text of what its parts read as. -/
theorem rendered_cut (source : String) : Rendered source (cut source.toList) where
  only other := by rw [isCut_iff, eq_comm]
  broken_iff := by
    constructor
    · rintro hbroken ⟨document, hreads⟩
      exact hbroken.fill_ne_ok .empty false [] 0 _ (hreads.fill_eq .empty false [] 0)
    · exact (broken_or_reads _).resolve_right
  broken := by
    intro hbroken fields
    have hfill := hbroken.fill_ne_ok fields false [] 0
    rw [render]
    split
    case h_1 text hevaluate => exact absurd hevaluate (hfill text)
    case h_2 => rfl
  filled := by
    intro document hreads fields
    rw [render, hreads.evaluate_eq fields]

example : render "a \x7b\x7b/* b */\x7d\x7d \x7b\x7b- .X\x7d\x7d \x7b\x7b.Y -\x7d\x7d c"
    ⟨[("X", " \x7b\x7b.Y\x7d\x7d ")]⟩ = "a \x7b\x7b.Y\x7d\x7d  c" := by
  decide +kernel

end EventRelay.Template
