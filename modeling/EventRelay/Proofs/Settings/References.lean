import EventRelay.Settings.Environment
import Mathlib.Data.List.Forall2
import Mathlib.Data.List.Infix

namespace EventRelay.ReferencePiece

/-- A piece as it is written. -/
def source : ReferencePiece → List Char
  | .literal text => text
  | .reference name => '$' :: '{' :: (name ++ ['}'])

/-- What may stand between the braces of a reference: anything but a closing brace, blanks and line
breaks included. -/
structure IsName (name : List Char) : Prop where
  ne_nil : name ≠ []
  notMem : '}' ∉ name

/-- A text begins with a reference. -/
def Starts (text : List Char) : Prop :=
  ∃ name back, IsName name ∧ text = source (.reference name) ++ back

/-- A text reads `front`, then a reference, then `back`, and no reference begins at an earlier place. -/
structure FirstReference (text front name back : List Char) : Prop where
  text_eq : text = front ++ (source (.reference name) ++ back)
  isName : IsName name
  first : ∀ before rest, text = before ++ rest → before.length < front.length → ¬ Starts rest

/-- No reference begins anywhere. -/
def NoReference (text : List Char) : Prop :=
  ∀ before rest, text = before ++ rest → ¬ Starts rest

/-- The pieces of a text, from left to right. Each reference is the first after the one before it. -/
inductive IsCut : List Char → List ReferencePiece → Prop
  | last {text : List Char} (hnone : NoReference text) : IsCut text [.literal text]
  | reference {text front name back : List Char} {pieces : List ReferencePiece}
      (hfirst : FirstReference text front name back) (hrest : IsCut back pieces) :
      IsCut text (.literal front :: .reference name :: pieces)

/-- What becomes of a piece: only a reference to a variable with a nonempty value is replaced. -/
inductive Becomes (environment : Environment) : ReferencePiece → List Char → Prop
  | literal (text : List Char) : Becomes environment (.literal text) text
  | replaced {name : List Char} {value : String}
      (hset : environment (String.ofList name) = some value) (hnonempty : value ≠ "") :
      Becomes environment (.reference name) value.toList
  | kept {name : List Char}
      (hunset : ∀ value, environment (String.ofList name) = some value → value = "") :
      Becomes environment (.reference name) (source (.reference name))

/-- A reference among the pieces begins before a place of the text and ends behind it. -/
def Straddles (pieces : List ReferencePiece) (place : Nat) : Prop :=
  ∃ before name after, pieces = before ++ .reference name :: after ∧
    (before.flatMap source).length < place ∧
    place < (before.flatMap source).length + (source (.reference name)).length

variable {environment : Environment} {text front name back literal : List Char} {c : Char}
  {pieces : List ReferencePiece}

theorem Starts.append (hstarts : Starts text) (more : List Char) : Starts (text ++ more) := by
  obtain ⟨name, back, hname, rfl⟩ := hstarts
  exact ⟨name, back ++ more, hname, List.append_assoc ..⟩

theorem Starts.ne_nil (hstarts : Starts text) : text ≠ [] := by
  obtain ⟨name, back, -, rfl⟩ := hstarts
  exact List.cons_ne_nil _ _

theorem NoReference.of_append (hnone : NoReference (front ++ back)) : NoReference back := by
  intro before rest htext
  exact hnone (front ++ before) rest (by rw [htext, List.append_assoc])

theorem noReference_cons (hhead : ¬ Starts (c :: text)) (hnone : NoReference text) :
    NoReference (c :: text) := by
  intro before rest htext
  cases before with
  | nil =>
    rw [List.nil_append] at htext
    exact htext ▸ hhead
  | cons d before => exact hnone before rest (List.cons.inj htext).2

theorem firstReference_cons (hhead : ¬ Starts (c :: text))
    (hfirst : FirstReference text front name back) :
    FirstReference (c :: text) (c :: front) name back := by
  obtain ⟨htext, hname, hearlier⟩ := hfirst
  refine ⟨by rw [htext, List.cons_append], hname, ?_⟩
  intro before rest hsplit hshort
  cases before with
  | nil =>
    rw [List.nil_append] at hsplit
    exact hsplit ▸ hhead
  | cons d before =>
    exact hearlier before rest (List.cons.inj hsplit).2 (Nat.lt_of_succ_lt_succ hshort)

theorem noReference_or_exists_firstReference (text : List Char) :
    NoReference text ∨ ∃ front name back, FirstReference text front name back := by
  induction text with
  | nil =>
    refine .inl fun before rest htext hstarts => hstarts.ne_nil ?_
    exact (List.append_eq_nil_iff.1 htext.symm).2
  | cons c text ih =>
    by_cases hhead : Starts (c :: text)
    · obtain ⟨name, back, hname, htext⟩ := hhead
      exact .inr ⟨[], name, back, htext, hname, fun _ _ _ hshort => absurd hshort (Nat.not_lt_zero _)⟩
    · obtain hnone | ⟨front, name, back, hfirst⟩ := ih
      · exact .inl (noReference_cons hhead hnone)
      · exact .inr ⟨c :: front, name, back, firstReference_cons hhead hfirst⟩

section Scan

theorem cutName_of_isName {before : List Char} (hname : '}' ∉ name) :
    cutName literal before (name ++ '}' :: back) =
      if before = [] ∧ name = [] then cutLiteral ('}' :: '{' :: '$' :: literal) back
      else .literal literal.reverse :: .reference (before.reverse ++ name) :: cut back := by
  induction name generalizing before with
  | nil => simp [cutName, cut]
  | cons c name ih =>
    obtain ⟨hc, hrest⟩ := not_or.1 (mt List.mem_cons.2 hname)
    rw [List.cons_append, cutName, ih hrest]
    · simp
    · rintro rfl
      exact hc rfl

theorem cutName_of_notMem {before : List Char} (hopen : '}' ∉ text) :
    cutName literal before text =
      [.literal (literal.reverse ++ '$' :: '{' :: (before.reverse ++ text))] := by
  induction text generalizing before with
  | nil => simp [cutName]
  | cons c text ih =>
    obtain ⟨hc, hrest⟩ := not_or.1 (mt List.mem_cons.2 hopen)
    rw [cutName, ih hrest]
    · simp
    · rintro rfl
      exact hc rfl

theorem cutLiteral_of_ne (hhead : ¬ (c = '$' ∧ text.head? = some '{')) :
    cutLiteral literal (c :: text) = cutLiteral (c :: literal) text := by
  rw [cutLiteral]
  rintro rest rfl rfl
  exact hhead ⟨rfl, rfl⟩

theorem cutLiteral_of_notMem (hopen : '}' ∉ text) :
    cutLiteral literal text = [.literal (literal.reverse ++ text)] := by
  induction text generalizing literal with
  | nil => simp [cutLiteral]
  | cons c text ih =>
    have hrest : '}' ∉ text := fun hmem => hopen (List.mem_cons_of_mem _ hmem)
    by_cases hhead : c = '$' ∧ text.head? = some '{'
    · obtain ⟨rfl, hbrace⟩ := hhead
      obtain ⟨rest, rfl⟩ := List.head?_eq_some_iff.1 hbrace
      rw [cutLiteral, cutName_of_notMem fun hmem => hrest (List.mem_cons_of_mem _ hmem)]
      simp
    · rw [cutLiteral_of_ne hhead, ih hrest]
      simp

/-- Where no reference begins the scanner goes on by one character, also where a dollar sign and a
brace have made it look for a name. -/
theorem cutLiteral_of_not_starts (hhead : ¬ Starts (c :: text)) :
    cutLiteral literal (c :: text) = cutLiteral (c :: literal) text := by
  by_cases hopen : c = '$' ∧ text.head? = some '{'
  · obtain ⟨rfl, hbrace⟩ := hopen
    obtain ⟨rest, rfl⟩ := List.head?_eq_some_iff.1 hbrace
    rw [cutLiteral, cutLiteral_of_ne (by simp)]
    by_cases hclose : '}' ∈ rest
    · obtain ⟨name, back, rfl, hname⟩ := List.eq_append_cons_of_mem hclose
      have hempty : name = [] := by
        by_contra hne
        exact hhead ⟨name, back, ⟨hne, hname⟩, by simp [source]⟩
      subst hempty
      rw [cutName_of_isName hname, if_pos ⟨rfl, rfl⟩, List.nil_append, cutLiteral_of_ne (by simp)]
    · rw [cutName_of_notMem hclose, cutLiteral_of_notMem hclose]
      simp
  · exact cutLiteral_of_ne hopen

theorem cutLiteral_of_noReference (hnone : NoReference text) :
    cutLiteral literal text = [.literal (literal.reverse ++ text)] := by
  induction text generalizing literal with
  | nil => simp [cutLiteral]
  | cons c text ih =>
    have hrest : NoReference text := .of_append (show NoReference ([c] ++ text) from hnone)
    rw [cutLiteral_of_not_starts (hnone [] _ rfl), ih hrest]
    simp

theorem cutLiteral_of_firstReference (hfirst : FirstReference text front name back) :
    cutLiteral literal text =
      .literal (literal.reverse ++ front) :: .reference name :: cut back := by
  obtain ⟨rfl, hname, hearlier⟩ := hfirst
  induction front generalizing literal with
  | nil =>
    rw [source, List.nil_append, List.cons_append, List.cons_append, cutLiteral, List.append_assoc,
      List.singleton_append, cutName_of_isName hname.notMem, if_neg fun hboth => hname.ne_nil hboth.2]
    simp
  | cons c front ih =>
    have hhead := hearlier [] _ rfl (Nat.zero_lt_succ _)
    rw [List.cons_append, cutLiteral_of_not_starts (by simpa using hhead), ih]
    · simp
    · intro before rest hsplit hshort
      exact hearlier (c :: before) rest (by rw [List.cons_append, hsplit, List.cons_append])
        (Nat.succ_lt_succ hshort)

end Scan

theorem IsCut.cut_eq (hcut : IsCut text pieces) : cut text = pieces := by
  induction hcut with
  | last hnone => rw [cut, cutLiteral_of_noReference hnone, List.reverse_nil, List.nil_append]
  | reference hfirst _ ih =>
    rw [cut, cutLiteral_of_firstReference hfirst, ih, List.reverse_nil, List.nil_append]

theorem exists_isCut (text : List Char) : ∃ pieces, IsCut text pieces := by
  induction hlength : text.length using Nat.strong_induction_on generalizing text with
  | _ length ih =>
    subst hlength
    obtain hnone | ⟨front, name, back, hfirst⟩ := noReference_or_exists_firstReference text
    · exact ⟨_, .last hnone⟩
    · have hshorter : back.length < text.length := by
        rw [hfirst.text_eq, source]
        simp only [List.length_append, List.length_cons]
        omega
      obtain ⟨pieces, hrest⟩ := ih back.length hshorter back rfl
      exact ⟨_, .reference hfirst hrest⟩

/-- Every text is cut in one way only, and that is the way it is read. -/
theorem isCut_iff : IsCut text pieces ↔ cut text = pieces := by
  refine ⟨IsCut.cut_eq, ?_⟩
  rintro rfl
  obtain ⟨pieces, hcut⟩ := exists_isCut text
  rwa [hcut.cut_eq]

theorem IsCut.flatMap_source (hcut : IsCut text pieces) : pieces.flatMap source = text := by
  induction hcut with
  | last hnone => simp [source]
  | reference hfirst _ ih =>
    rw [List.flatMap_cons, List.flatMap_cons, ih, hfirst.text_eq]
    rfl

theorem becomes_iff {piece : ReferencePiece} :
    Becomes environment piece text ↔ piece.expand environment = text := by
  constructor
  · intro hbecomes
    cases hbecomes with
    | literal => rfl
    | replaced hset hnonempty => simp [expand, hset, hnonempty]
    | kept hunset =>
      rw [expand]
      split
      · rename_i value hset
        rw [if_pos (hunset value hset), source, List.cons_append, List.cons_append]
      · rfl
  · rintro rfl
    cases piece with
    | literal text => exact .literal text
    | reference name =>
      rw [expand]
      split
      · rename_i value hset
        split
        case isTrue hempty =>
          subst hempty
          refine .kept fun value hvalue => ?_
          rw [hset] at hvalue
          exact (Option.some.inj hvalue).symm
        case isFalse hnonempty => exact .replaced hset hnonempty
      · rename_i hunset
        refine .kept fun value hvalue => ?_
        rw [hunset] at hvalue
        cases hvalue

theorem forall₂_becomes_expand (environment : Environment) (pieces : List ReferencePiece) :
    List.Forall₂ (Becomes environment) pieces (pieces.map (expand environment)) := by
  rw [List.forall₂_map_right_iff]
  exact List.forall₂_same.2 fun piece _ => becomes_iff.2 rfl

theorem expand_eq_source (hunset : ∀ name value, environment name = some value → value = "")
    (piece : ReferencePiece) : piece.expand environment = piece.source := by
  refine becomes_iff.1 ?_
  cases piece with
  | literal text => exact .literal text
  | reference name => exact .kept (hunset (String.ofList name))

theorem not_straddles_nil (place : Nat) : ¬ Straddles [] place := by
  rintro ⟨before, name, after, hpieces, -⟩
  exact List.cons_ne_nil _ _ (List.append_eq_nil_iff.1 hpieces.symm).2

/-- It is the first piece that stands at a place, or another at the place counted from its end. -/
theorem straddles_cons_iff {piece : ReferencePiece} {place : Nat} :
    Straddles (piece :: pieces) place ↔
      (∃ name, piece = .reference name ∧ 0 < place ∧ place < piece.source.length) ∨
        Straddles pieces (place - piece.source.length) := by
  constructor
  · rintro ⟨before, name, after, hpieces, hbegins, hends⟩
    cases before with
    | nil =>
      obtain ⟨rfl, rfl⟩ := List.cons.inj hpieces
      exact .inl ⟨name, rfl, by simpa using hbegins, by simpa using hends⟩
    | cons first before =>
      obtain ⟨rfl, rfl⟩ := List.cons.inj hpieces
      rw [List.flatMap_cons, List.length_append] at hbegins hends
      exact .inr ⟨before, name, after, rfl, by omega, by omega⟩
  · rintro (⟨name, rfl, hbegins, hends⟩ | ⟨before, name, after, rfl, hbegins, hends⟩)
    · exact ⟨[], name, pieces, rfl, by simpa using hbegins, by simpa using hends⟩
    · refine ⟨piece :: before, name, after, rfl, ?_, ?_⟩
      · rw [List.flatMap_cons, List.length_append]
        omega
      · rw [List.flatMap_cons, List.length_append]
        omega

/-- A text that is parted at a place where no reference stands is cut in each part as it is in the
whole; only the literal at the place is parted with it. -/
theorem IsCut.part (hcut : IsCut text pieces) (htext : text = front ++ back)
    (hapart : ¬ Straddles pieces front.length) (environment : Environment) :
    ∃ first second, IsCut front first ∧ IsCut back second ∧
      pieces.flatMap (expand environment) =
        first.flatMap (expand environment) ++ second.flatMap (expand environment) := by
  induction hcut generalizing front with
  | @last text hnone =>
    subst htext
    refine ⟨[.literal front], [.literal back], .last ?_, .last hnone.of_append, by simp [expand]⟩
    intro before rest hfront hstarts
    exact hnone before (rest ++ back) (by rw [hfront, List.append_assoc]) (hstarts.append back)
  | @reference text leading name trailing pieces hfirst hrest ih =>
    have hearlier {before rest : List Char} (hfront : front = before ++ rest)
        (hshort : before.length < leading.length) : ¬ Starts rest := by
      intro hstarts
      refine hfirst.first before (rest ++ back) ?_ hshort (hstarts.append back)
      rw [htext, hfront, List.append_assoc]
    have hsplit : front ++ back = leading ++ (source (.reference name) ++ trailing) :=
      htext.symm.trans hfirst.text_eq
    obtain hbefore | hwithin :=
      (Nat.lt_or_ge leading.length front.length).symm
    · -- The place lies in the literal before the reference.
      obtain ⟨literal, rfl⟩ := List.prefix_of_prefix_length_le
        (List.prefix_append front back) (hsplit ▸ List.prefix_append _ _) hbefore
      rw [List.append_assoc, List.append_cancel_left_eq] at hsplit
      refine ⟨[.literal front], .literal literal :: .reference name :: pieces, .last ?_,
        .reference ⟨hsplit, hfirst.isName, ?_⟩ hrest, by simp [expand]⟩
      · intro before rest hfront hstarts
        refine hearlier hfront ?_ hstarts
        have hpositive := List.length_pos_iff.2 hstarts.ne_nil
        rw [hfront, List.length_append] at hbefore
        rw [List.length_append, hfront, List.length_append]
        omega
      · intro before rest hback hshort
        refine hfirst.first (front ++ before) rest ?_ ?_
        · rw [htext, hback, List.append_assoc]
        · simp only [List.length_append]
          omega
    · -- The reference ends before the place.
      simp only [straddles_cons_iff, not_or] at hapart
      obtain ⟨-, hname, hstill⟩ := hapart
      have hends : (leading ++ source (.reference name)).length ≤ front.length := by
        by_contra hshort
        rw [List.length_append] at hshort
        refine hname ⟨name, rfl, ?_, ?_⟩
        · exact Nat.sub_pos_of_lt hwithin
        · rw [source]
          omega
      rw [← List.append_assoc] at hsplit
      obtain ⟨later, rfl⟩ := List.prefix_of_prefix_length_le
        (List.prefix_append _ trailing) (hsplit ▸ List.prefix_append _ _) hends
      rw [List.append_assoc _ later, List.append_cancel_left_eq] at hsplit
      have hplace : (leading ++ source (.reference name) ++ later).length -
          (source (.literal leading)).length - (source (.reference name)).length = later.length := by
        simp only [List.length_append, source]
        omega
      rw [hplace] at hstill
      obtain ⟨first, second, hlater, hback, hexpand⟩ := ih hsplit.symm hstill
      refine ⟨.literal leading :: .reference name :: first, second, .reference ?_ hlater, hback, ?_⟩
      · refine ⟨List.append_assoc .., hfirst.isName, ?_⟩
        intro before rest hfront hshort
        exact hearlier hfront hshort
      · simp only [List.flatMap_cons, hexpand, List.append_assoc]

end EventRelay.ReferencePiece

namespace EventRelay.Environment

open ReferencePiece

/-- What it means that the references of a text are replaced. -/
structure Substitutes (environment : Environment) (text : String) : Prop where
  /-- The text is cut in one way only, and its pieces become what they become one by one. -/
  piecewise : ∃ pieces parts, IsCut text.toList pieces ∧
    (∀ other, IsCut text.toList other → other = pieces) ∧ pieces.flatMap source = text.toList ∧
    List.Forall₂ (Becomes environment) pieces parts ∧
    environment.substitute text = String.ofList parts.flatten
  unset : (∀ name value, environment name = some value → value = "") →
    environment.substitute text = text
  parted : ∀ front back pieces, text = front ++ back → IsCut text.toList pieces →
    ¬ Straddles pieces front.toList.length →
      environment.substitute text = environment.substitute front ++ environment.substitute back

/-- Of any text exactly the complete references to variables with a value are replaced, each once. -/
theorem substitute_says (environment : Environment) (text : String) :
    environment.Substitutes text where
  piecewise := by
    obtain ⟨pieces, hcut⟩ := exists_isCut text.toList
    refine ⟨pieces, pieces.map (expand environment), hcut, ?_, hcut.flatMap_source,
      forall₂_becomes_expand environment pieces, ?_⟩
    · intro other hother
      rw [← hother.cut_eq, hcut.cut_eq]
    · rw [substitute, hcut.cut_eq, List.flatMap_def]
  unset := by
    intro hunset
    obtain ⟨pieces, hcut⟩ := exists_isCut text.toList
    rw [substitute, hcut.cut_eq, funext (expand_eq_source hunset), hcut.flatMap_source,
      String.ofList_toList]
  parted := by
    rintro front back pieces rfl hcut hapart
    obtain ⟨first, second, hfront, hback, hexpand⟩ :=
      hcut.part (String.toList_append ..) hapart environment
    rw [substitute, substitute, substitute, hcut.cut_eq, hfront.cut_eq, hback.cut_eq, hexpand,
      String.ofList_append]

/-- Of these variables the first has a reference for its value, and the second no value. -/
def aliasing : Environment
  | "A" => some (String.ofList (source (.reference ['B'])))
  | "B" => some ""
  | _ => none

/-- After a reference to the first variable come one whose name begins like a reference, one to the
second variable, and an open one. -/
theorem substitute_says_of_nested :
    let front := String.ofList ('x' :: source (.reference ['A']))
    let kept := source (.reference ['$', '{', 'A']) ++ source (.reference ['B'])
    let back := String.ofList (kept ++ ['$', '{', '\n'])
    let pieces : List ReferencePiece := [.literal ['x'], .reference ['A'], .literal [],
      .reference ['$', '{', 'A'], .literal [], .reference ['B'], .literal ['$', '{', '\n']]
    IsCut (front ++ back).toList pieces ∧ ¬ Straddles pieces front.toList.length ∧
      aliasing.Substitutes (front ++ back) ∧
      aliasing.substitute (front ++ back) = aliasing.substitute front ++ aliasing.substitute back ∧
      aliasing.substitute (front ++ back) =
        String.ofList ('x' :: source (.reference ['B']) ++ kept ++ ['$', '{', '\n']) := by
  intro front kept back pieces
  have hcut : IsCut (front ++ back).toList pieces := isCut_iff.2 (by decide)
  have hapart : ¬ Straddles pieces front.toList.length := by
    simp [pieces, front, straddles_cons_iff, not_straddles_nil, source]
  have hsubstitutes := substitute_says aliasing (front ++ back)
  exact ⟨hcut, hapart, hsubstitutes, hsubstitutes.parted _ _ pieces rfl hcut hapart, by decide⟩

end EventRelay.Environment
