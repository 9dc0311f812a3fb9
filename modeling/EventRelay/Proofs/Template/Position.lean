import EventRelay.Proofs.Template.Meaning
import EventRelay.Proofs.Text.Bytes
import Mathlib.Logic.Relation

namespace EventRelay.Template

open Text

/-- An action that is a comment or a path. -/
inductive IsReadable (action : List Char) : Prop
  | comment {marked : Marked} (hmarked : Unmarked action marked) (hcomment : IsComment marked.action)
  | path {marked : Marked} {names : List (List Char)} (hmarked : Unmarked action marked)
      (hpath : IsPath marked.action names)

/-- Read from left to right, a text comes to two braces that open an action without an end. `front` stands
before them, in which every action can be read, and `last` behind them. -/
inductive Opens : List Char → List Char → List Char → Prop
  | here {text literal inside : List Char} (hopen : FirstPair '{' text literal inside)
      (hnone : NoPair '}' inside) : Opens text literal inside
  | later {text literal inside action after front last : List Char}
      (hopen : FirstPair '{' text literal inside) (hclose : FirstPair '}' inside action after)
      (hreadable : IsReadable action) (hlater : Opens after front last) :
      Opens text (literal ++ '{' :: '{' :: (action ++ '}' :: '}' :: front)) last

variable {source text literal inside action after front last buffer : List Char} {parts : Cut}
  {marked : Marked} {names : List (List Char)} {strips : Bool} {offset n : Nat}

theorem not_isReadable (hmarked : Unmarked action marked) (hcomment : ¬ IsComment marked.action)
    (hpath : ∀ names, ¬ IsPath marked.action names) : ¬ IsReadable action := by
  rintro (⟨hmarked', hcomment'⟩ | ⟨hmarked', hpath'⟩)
  · obtain rfl := hmarked'.unique hmarked
    exact hcomment hcomment'
  · obtain rfl := hmarked'.unique hmarked
    exact hpath _ hpath'

theorem Opens.text_eq (hopens : Opens text front last) : text = front ++ '{' :: '{' :: last := by
  induction hopens with
  | here hopen => exact hopen.text_eq
  | later hopen hclose _ _ ih =>
    rw [hopen.text_eq, hclose.text_eq, ih]
    simp

theorem Opens.noPair (hopens : Opens text front last) : NoPair '}' last := by
  induction hopens with
  | here _ hnone => exact hnone
  | later _ _ _ _ ih => exact ih

theorem not_opens (hnone : NoPair '{' text) : ¬ Opens text front last := by
  rintro (⟨hopen, -⟩ | ⟨hopen, -, -, -⟩) <;> exact hnone.not_firstPair hopen

theorem opens_iff_of_noPair (hopen : FirstPair '{' text literal inside) (hnone : NoPair '}' inside) :
    Opens text front last ↔ front = literal ∧ last = inside := by
  constructor
  · rintro (⟨hopen', -⟩ | ⟨hopen', hclose, -, -⟩)
    · exact hopen'.unique hopen
    · obtain ⟨-, rfl⟩ := hopen'.unique hopen
      exact absurd hclose hnone.not_firstPair
  · rintro ⟨rfl, rfl⟩
    exact .here hopen hnone

theorem opens_iff_of_firstPair (hopen : FirstPair '{' text literal inside)
    (hclose : FirstPair '}' inside action after) :
    Opens text front last ↔ IsReadable action ∧ ∃ front',
      front = literal ++ '{' :: '{' :: (action ++ '}' :: '}' :: front') ∧ Opens after front' last := by
  constructor
  · rintro (⟨hopen', hnone⟩ | ⟨hopen', hclose', hreadable, hlater⟩)
    · obtain ⟨-, rfl⟩ := hopen'.unique hopen
      exact absurd hclose hnone.not_firstPair
    · obtain ⟨rfl, rfl⟩ := hopen'.unique hopen
      obtain ⟨rfl, rfl⟩ := hclose'.unique hclose
      exact ⟨hreadable, _, rfl, hlater⟩
  · rintro ⟨hreadable, front', rfl, hlater⟩
    exact .later hopen hclose hreadable hlater

/-- The four braces of an action have one byte each. -/
theorem byteLength_of_action (literal action front : List Char) :
    byteLength (literal ++ '{' :: '{' :: (action ++ '}' :: '}' :: front)) =
      byteLength literal + 2 + byteLength action + 2 + byteLength front := by
  have hopening : Char.utf8Size '{' = 1 := rfl
  have hclosing : Char.utf8Size '}' = 1 := rfl
  simp only [byteLength_append, byteLength, hopening, hclosing]
  omega

/-- Behind an action that can be read, the place is counted from the end of the action. -/
theorem exists_opens_iff (hopen : FirstPair '{' text literal inside)
    (hclose : FirstPair '}' inside action after) :
    (∃ front last, Opens text front last ∧ offset + byteLength front = n) ↔
      IsReadable action ∧ ∃ front last,
        Opens after front last ∧ offsetAfter offset literal action + byteLength front = n := by
  simp only [opens_iff_of_firstPair hopen hclose, offsetAfter]
  constructor
  · rintro ⟨_, last, ⟨hreadable, front, rfl, hlater⟩, rfl⟩
    refine ⟨hreadable, front, last, hlater, ?_⟩
    rw [byteLength_of_action]
    omega
  · rintro ⟨hreadable, front, last, hlater, rfl⟩
    refine ⟨_, last, ⟨hreadable, front, rfl, hlater⟩, ?_⟩
    rw [byteLength_of_action]
    omega

theorem assemble_eq_unclosed_iff (hcut : IsCut text parts) :
    assemble strips buffer offset parts = .error (.unclosed n) ↔
      ∃ front last, Opens text front last ∧ offset + byteLength front = n := by
  induction hcut generalizing strips buffer offset with
  | tail hnone => simp [assemble, not_opens hnone]
  | unclosed hopen hnone => simp [assemble, opens_iff_of_noPair hopen hnone]
  | @action text literal inside action after rest hopen hclose _ ih =>
    rw [exists_opens_iff hopen hclose]
    -- Markers and comments change the buffer, which the place does not depend on.
    obtain ⟨marked, hmarked, hcomment | ⟨names, hpath⟩ | ⟨hcomment, hpath⟩⟩ := exists_unmarked action
    · rw [assemble_of_isComment hmarked hcomment, ih, and_iff_right (.comment hmarked hcomment)]
    · rw [assemble_of_isPath hmarked hpath, map_eq_error, ih, and_iff_right (.path hmarked hpath)]
    · simp [assemble_of_neither hmarked hcomment hpath, not_isReadable hmarked hcomment hpath]

theorem parse_eq_unclosed_iff : parse source = .error (.unclosed n) ↔
    ∃ front last, Opens source front last ∧ byteLength front = n := by
  simp [parse, assemble_eq_unclosed_iff (isCut_iff.2 rfl)]

theorem Opens.pairAt (hopens : Opens source front last) :
    PairAt '{' (Utf8.encode source) (byteLength front) :=
  (pairAt_encode_iff (by decide)).2 ⟨front, last, hopens.text_eq, rfl⟩

/-- Braces that are doubled behind the opening would close the action. -/
theorem Opens.not_pairAt (hopens : Opens source front last) (hle : byteLength front + 2 ≤ n) :
    ¬ PairAt '}' (Utf8.encode source) n := by
  obtain rfl := hopens.text_eq
  have hopening : front ++ '{' :: '{' :: last = front ++ ['{', '{'] ++ last := by simp
  have hlength : (Utf8.encode (front ++ ['{', '{'])).length = byteLength front + 2 := by
    rw [length_encode, byteLength_append_pair (by decide)]
  rw [hopening, Utf8.encode_append, pairAt_append_iff (by rwa [hlength])]
  exact (noPair_iff_forall_not_pairAt (by decide)).1 hopens.noPair _

/-- What the next pairs of braces cut out of a text. The length is that of an action with all that stands
before it. -/
inductive Round
  | tail
  | unclosed (opening : Nat)
  | action (literal action : List Char) (length : Nat)

/-- Cuts a text at places given in bytes. There is no result if such a place is inside a character or past
the end. -/
def round? (text : List Char) : Option Round :=
  match pairIndex? '{' text with
  | none => some .tail
  | some opening => do
    let (literal, _) ← splitAtByte? text opening
    let (_, inside) ← splitAtByte? text (opening + 2)
    match pairIndex? '}' inside with
    | none => some (.unclosed opening)
    | some closing =>
      let (action, _) ← splitAtByte? inside closing
      some (.action literal action (opening + 2 + closing + 2))

/-- Cuts a text off at the length that it has without the blanks at its end. -/
def truncated? (strips : Bool) (text : List Char) : Option (List Char) :=
  if strips then (splitAtByte? text (byteLength (trimEnd text))).map Prod.fst else some text

/-- Where the reader of a template stands: the segments so far, the literal text since the last field, and
the text that is left with its place. -/
structure Scan where
  segments : List Segment
  buffer : List Char
  rest : List Char
  offset : Nat
  strips : Bool

def Scan.start (source : List Char) : Scan :=
  ⟨[], [], source, 0, false⟩

/-- A comment leaves the literal text open. -/
def Scan.advance (scan : Scan) (buffer rest : List Char) (length : Nat) (strips : Bool) :
    Option Segment → Scan
  | none => ⟨scan.segments, buffer, rest, scan.offset + length, strips⟩
  | some segment =>
    ⟨scan.segments ++ literalSegment buffer ++ [segment], [], rest, scan.offset + length, strips⟩

/-- Reads up to the end of the next action, or comes to a result. -/
def Scan.step? (scan : Scan) : Option (Scan ⊕ Except Error (List Segment)) := do
  match ← round? scan.rest with
  | .tail =>
    let buffer := scan.buffer ++ strippedStartIf scan.strips scan.rest
    some (.inr (.ok (scan.segments ++ literalSegment buffer)))
  | .unclosed opening => some (.inr (.error (.unclosed (scan.offset + opening))))
  | .action literal action length =>
    let marked := readMarkers action
    let buffer ← truncated? marked.stripsBefore (scan.buffer ++ strippedStartIf scan.strips literal)
    match readAction marked.action with
    | .error error => some (.inr (.error error))
    | .ok segment? =>
      let (_, rest) ← splitAtByte? scan.rest length
      some (.inl (scan.advance buffer rest length marked.stripsAfter segment?))

/-- The states that the reader comes to. -/
def Scan.Reached (source : List Char) (scan : Scan) : Prop :=
  Relation.ReflTransGen (fun scan next : Scan => scan.step? = some (.inl next)) (.start source) scan

theorem round?_of_noPair (hnone : NoPair '{' text) : round? text = some .tail := by
  rw [round?, pairIndex?_of_noPair (by decide) hnone]

theorem round?_of_unclosed (hopen : FirstPair '{' text literal inside) (hnone : NoPair '}' inside) :
    round? text = some (.unclosed (byteLength literal)) := by
  obtain ⟨hliteral, hinside⟩ := hopen.splitAtByte?_eq (by decide)
  simp only [round?, hopen.pairIndex?_eq (by decide), hliteral, hinside, Option.bind_eq_bind,
    Option.bind_some, pairIndex?_of_noPair (by decide) hnone]

theorem round?_of_action (hopen : FirstPair '{' text literal inside)
    (hclose : FirstPair '}' inside action after) :
    round? text = some (.action literal action (byteLength literal + 2 + byteLength action + 2)) := by
  obtain ⟨hliteral, hinside⟩ := hopen.splitAtByte?_eq (by decide)
  obtain ⟨haction, -⟩ := hclose.splitAtByte?_eq (by decide)
  simp only [round?, hopen.pairIndex?_eq (by decide), hliteral, hinside, Option.bind_eq_bind,
    Option.bind_some, hclose.pairIndex?_eq (by decide), haction]

theorem splitAtByte?_of_action (hopen : FirstPair '{' text literal inside)
    (hclose : FirstPair '}' inside action after) :
    splitAtByte? text (byteLength literal + 2 + byteLength action + 2) =
      some (literal ++ '{' :: '{' :: (action ++ ['}', '}']), after) := by
  rw [splitAtByte?_eq_some_iff, byteLength_of_action, hopen.text_eq, hclose.text_eq]
  exact ⟨by simp, rfl⟩

theorem truncated?_eq (strips : Bool) (text : List Char) :
    truncated? strips text = some (strippedEndIf strips text) := by
  cases strips with
  | false => rfl
  | true =>
    have hsplit := splitAtByte?_append (trimEnd text) (text.rtakeWhile isBlank)
    have htext : trimEnd text ++ text.rtakeWhile isBlank = text :=
      List.rdropWhile_append_rtakeWhile ..
    rw [htext] at hsplit
    rw [truncated?, if_pos rfl, hsplit]
    rfl

variable {scan : Scan}

theorem Scan.step?_of_noPair (hnone : NoPair '{' scan.rest) : scan.step? = some (.inr (.ok
    (scan.segments ++ literalSegment (scan.buffer ++ strippedStartIf scan.strips scan.rest)))) := by
  rw [step?, round?_of_noPair hnone]
  rfl

theorem Scan.step?_of_unclosed (hopen : FirstPair '{' scan.rest literal inside)
    (hnone : NoPair '}' inside) :
    scan.step? = some (.inr (.error (.unclosed (scan.offset + byteLength literal)))) := by
  rw [step?, round?_of_unclosed hopen hnone]
  rfl

theorem Scan.step?_of_action (hopen : FirstPair '{' scan.rest literal inside)
    (hclose : FirstPair '}' inside action after) (hmarked : Unmarked action marked) :
    scan.step? = match readAction marked.action with
      | .error error => some (.inr (.error error))
      | .ok segment? => some (.inl (scan.advance
          (strippedEndIf marked.stripsBefore (scan.buffer ++ strippedStartIf scan.strips literal)) after
          (byteLength literal + 2 + byteLength action + 2) marked.stripsAfter segment?)) := by
  simp only [step?, round?_of_action hopen hclose, hmarked.readMarkers_eq, truncated?_eq,
    splitAtByte?_of_action hopen hclose, Option.bind_eq_bind, Option.bind_some]

/-- Where the reader stands in a template, and what is still to come. -/
structure Scan.Sound (source : List Char) (scan : Scan) : Prop where
  consumed : ∃ front, source = front ++ scan.rest ∧ byteLength front = scan.offset
  remains : parse source = (scan.segments ++ ·) <$>
    assemble scan.strips scan.buffer scan.offset (cut scan.rest)

theorem Scan.sound_start (source : List Char) : (Scan.start source).Sound source where
  consumed := ⟨[], rfl, rfl⟩
  remains := (id_map (parse source)).symm

theorem Scan.Sound.consumed_of_action (hsound : scan.Sound source)
    (hopen : FirstPair '{' scan.rest literal inside) (hclose : FirstPair '}' inside action after) :
    ∃ front, source = front ++ after ∧
      byteLength front = scan.offset + (byteLength literal + 2 + byteLength action + 2) := by
  obtain ⟨front, rfl, hlength⟩ := hsound.consumed
  obtain ⟨hrest, hlength'⟩ := splitAtByte?_eq_some_iff.1 (splitAtByte?_of_action hopen hclose)
  refine ⟨front ++ (literal ++ '{' :: '{' :: (action ++ ['}', '}'])), ?_, ?_⟩
  · rw [List.append_assoc, ← hrest]
  · rw [byteLength_append, hlength, hlength']

theorem offsetAfter_eq (offset : Nat) (literal action : List Char) :
    offsetAfter offset literal action = offset + (byteLength literal + 2 + byteLength action + 2) := by
  rw [offsetAfter]
  omega

/-- An action that can be read brings the reader on, and any other one ends the reading. -/
theorem Scan.Sound.step_of_action (hsound : scan.Sound source)
    (hopen : FirstPair '{' scan.rest literal inside) (hclose : FirstPair '}' inside action after) :
    scan.step? = some (.inr (parse source)) ∨
      ∃ next, scan.step? = some (.inl next) ∧ next.Sound source ∧ next.rest = after := by
  have hconsumed := hsound.consumed_of_action hopen hclose
  have hremains := hsound.remains
  rw [cut_of_action hopen hclose] at hremains
  obtain ⟨marked, hmarked, hcomment | ⟨names, hpath⟩ | ⟨hcomment, hpath⟩⟩ := exists_unmarked action
  · rw [assemble_of_isComment hmarked hcomment, offsetAfter_eq] at hremains
    rw [step?_of_action hopen hclose hmarked, readAction_of_isComment hcomment]
    exact .inr ⟨_, rfl, ⟨hconsumed, hremains⟩, rfl⟩
  · rw [assemble_of_isPath hmarked hpath, offsetAfter_eq] at hremains
    rw [step?_of_action hopen hclose hmarked, readAction_of_isPath hpath]
    refine .inr ⟨_, rfl, ⟨hconsumed, ?_⟩, rfl⟩
    rw [hremains, Functor.map_map]
    simp [advance]
  · rw [assemble_of_neither hmarked hcomment hpath] at hremains
    rw [step?_of_action hopen hclose hmarked, readAction_of_neither hcomment hpath, hremains]
    exact .inl rfl

/-- No step is without a result, and each leaves less to be read. -/
theorem Scan.Sound.step (hsound : scan.Sound source) :
    scan.step? = some (.inr (parse source)) ∨ ∃ next, scan.step? = some (.inl next) ∧
      next.Sound source ∧ next.rest.length < scan.rest.length := by
  have hremains := hsound.remains
  obtain hnone | ⟨literal, inside, hopen⟩ := noPair_or_exists_firstPair '{' scan.rest
  · rw [cut_of_noPair hnone] at hremains
    rw [step?_of_noPair hnone, hremains]
    exact .inl rfl
  obtain hnone | ⟨action, after, hclose⟩ := noPair_or_exists_firstPair '}' inside
  · rw [cut_of_unclosed hopen hnone] at hremains
    rw [step?_of_unclosed hopen hnone, hremains]
    exact .inl rfl
  · obtain hresult | ⟨next, hnext, hsound', rfl⟩ := hsound.step_of_action hopen hclose
    · exact .inl hresult
    · exact .inr ⟨next, hnext, hsound', hclose.length_lt.trans hopen.length_lt⟩

theorem Scan.Reached.sound (hreached : Scan.Reached source scan) : scan.Sound source := by
  induction hreached with
  | refl => exact Scan.sound_start source
  | @tail scan next _ hstep ih =>
    obtain hresult | ⟨next', hnext, hsound, -⟩ := ih.step
    · rw [hresult] at hstep
      cases hstep
    · rw [hnext] at hstep
      cases hstep
      exact hsound

/-- The text that is left gets shorter, so that the reader comes to a result from every state. -/
theorem Scan.Reached.exists_last (hreached : Scan.Reached source scan) :
    ∃ last, Scan.Reached source last ∧ last.step? = some (.inr (parse source)) := by
  induction hlength : scan.rest.length using Nat.strong_induction_on generalizing scan with
  | _ length ih =>
    subst hlength
    obtain hresult | ⟨next, hnext, -, hlt⟩ := hreached.sound.step
    · exact ⟨scan, hreached, hresult⟩
    · exact ih next.rest.length hlt (hreached.tail hnext) rfl

/-- What a template is refused for if it is not closed, and how the place is found. -/
structure Located (source : List Char) : Prop where
  unclosed_iff : ∀ n, parse source = .error (.unclosed n) ↔
    ∃ front last, Opens source front last ∧ byteLength front = n
  /-- The place is that of the braces in the bytes of the template. -/
  pairAt : ∀ n, parse source = .error (.unclosed n) → PairAt '{' (Utf8.encode source) n ∧
    ∀ place, n + 2 ≤ place → ¬ PairAt '}' (Utf8.encode source) place
  /-- No text is cut inside a character or past its end. -/
  within : ∀ scan, Scan.Reached source scan → scan.step? ≠ none
  consumed : ∀ scan, Scan.Reached source scan →
    ∃ front, source = front ++ scan.rest ∧ byteLength front = scan.offset
  ends : ∃ scan, Scan.Reached source scan ∧ scan.step? = some (.inr (parse source))

/-- An action that is not closed is reported at its place in the bytes of the template, whatever stands
before it. -/
theorem parse_located (source : List Char) : Located source where
  unclosed_iff _ := parse_eq_unclosed_iff
  pairAt n hparse := by
    obtain ⟨front, last, hopens, rfl⟩ := parse_eq_unclosed_iff.1 hparse
    exact ⟨hopens.pairAt, fun place hle => hopens.not_pairAt hle⟩
  within scan hreached := by
    obtain hresult | ⟨next, hnext, -⟩ := hreached.sound.step
    · rw [hresult]
      exact Option.some_ne_none _
    · rw [hnext]
      exact Option.some_ne_none _
  consumed _ hreached := hreached.sound.consumed
  ends := Scan.Reached.exists_last .refl

example : parse "\u00e9\x7b\x7b/* b */\x7d\x7d\x7b\x7b.A -\x7d\x7d \x7b\x7b.B".toList =
    .error (.unclosed 22) := by
  decide +kernel

end EventRelay.Template
